import FieldRules.Engine.Clean
import FieldRules.Engine.Settings
import FieldRules.Engine.Walk
import FieldRules.Rule.Nested
/-!
# Validation

A call sorts out the rules, fills in what must be present, walks the tree, does the deferred acts and cleans
the result. The first failure ends it.
-/

namespace FieldRules

/-- What came of a call. -/
inductive Verdict where
  /-- The tree as it is delivered. -/
  | valid (data : Value)
  | invalid (failure : Failure)
  deriving DecidableEq, Repr

namespace Verdict

/-- What callers are told of a failure. -/
def describe (f : Failure) : Json :=
  .object ([("message", .string f.message), ("code", .number (.whole f.code)), ("id", .string f.id)] ++
    f.field.toList.map fun path => ("field", .string path))

/-- The document form of a verdict. -/
def toJson : Verdict → Json
  | .valid data => .object [("status", .string "valid"), ("data", data.toJson)]
  | .invalid f => .object [("status", .string "invalid"), ("error", describe f)]

end Verdict

/-- The engine: what holds for all its calls. -/
structure Validation where
  /-- Failures are told in detail and reported. -/
  detailed : Bool := false
  /-- Failures are raised and no verdict. -/
  raising : Bool := false
  settings : Settings := {}
  collaborators : Collaborators

namespace Validation

/-- Puts a rule to those before it; the policy, which is no rule of a field, is kept apart. -/
def splitRule (split : Option String × List (String × String)) (rule : String × Json) :
    Option String × List (String × String) :=
  if rule.1 == policyKey || rule.1 == quotedPolicyKey then (some (Policy.ruleText rule.2), split.2)
  else (split.1, split.2 ++ [(rule.1, ruleText rule.2)])

/-- The policy among the rules, if it is there, and the rules of the fields, all as texts. -/
def splitRules (rules : List (String × Json)) : Option String × List (String × String) :=
  rules.foldl splitRule (none, [])

/-- The policy of a call. -/
def policy (engine : Validation) (rule : Option String) : Except Failure Policy :=
  match rule with
  | none => .ok engine.settings.policy
  | some text => (Policy.parse text engine.settings.policy).mapError fun fault =>
      { fault, field := some policyKey }

/-- The fields of a tree; what is no map is the only item of a list. -/
def fieldsOf : Value → List (String × Value)
  | .map fields => fields
  | v => [("0", v)]

/-- What is delivered of a tree whose checks and acts are done. -/
def deliver (policy : Policy) (rules : RuleSet) (tree : Value) : Value :=
  (policy.cleanTree rules.ignored tree).emptyMarked

/-- The deferred acts and the cleaning after a walk. -/
def finish (policy : Policy) (rules : RuleSet) (walked : Walked (List (String × Value))) :
    Except Failure Value := do
  let notes ← walked.outcome
  match Plan.performTree (Walk.plan notes) (.map walked.value) with
  | (_, some f) => throw f
  | (tree, none) => return deliver policy rules tree

/-- What the checks of a call may look at. -/
def scope (engine : Validation) : Scope :=
  { collaborators := engine.collaborators, telRegions := engine.settings.telRegions }

/-- Runs the steps of a call. -/
def run (engine : Validation) (tree : Value) (rules : List (String × Json)) :
    Traced (Except Failure Value) :=
  let (policyRule, fieldRules) := splitRules rules
  let prepared := do return (← engine.policy policyRule, ← RuleSet.ofTexts fieldRules)
  match prepared with
  | .error f => return .error f
  | .ok (policy, rules) => do
    let walked ← Walk.fields engine.scope rules (rules.prefill (fieldsOf tree))
    return finish policy rules walked

/-- What an engine makes of a failure: it is told in detail and reported if the engine says so, and raised or
turned into a verdict. -/
def conclude (engine : Validation) (f : Failure) : Traced (Except Failure Verdict) := do
  let f ← if engine.detailed then Traced.call (.report f.detail) f.detail else pure f
  return if engine.raising then .error f else .ok (.invalid f)

/-- Validates a tree. Rules that are no object are always raised. -/
def validateTree (engine : Validation) (tree : Value) (rules : Json) : Traced (Except Failure Verdict) :=
  match rules with
  | .object rules => do
    match ← engine.run tree rules with
    | .ok data => return .ok (.valid data)
    | .error f => engine.conclude f
  | _ => return .error { fault := .rulesNotObject }

/-- Validates a request body. -/
def validate (engine : Validation) (data rules : Json) : Traced (Except Failure Verdict) :=
  engine.validateTree (Value.ofBody data) rules

/-- Validates a request body that is a text. -/
def validateText (engine : Validation) (body : String) (rules : Json) : Traced (Except Failure Verdict) :=
  engine.validate (.string body) rules

/-- Validates one text by one rule. -/
def validateValue (engine : Validation) (value rule : String) : Traced (Except Failure Verdict) :=
  engine.validateTree (.map [("value", .text value)]) (.object [("value", .string rule)])

end Validation

end FieldRules
