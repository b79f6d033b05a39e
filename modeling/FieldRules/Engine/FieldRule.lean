import FieldRules.Engine.Deferred
import FieldRules.Rule.Cell
/-!
# Rules of fields

The tokens of a rule are sorted into checks and deferred acts before any value is looked at, so that a rule
that makes no sense fails the call at once.
-/

namespace FieldRules

/-- The rule of one field. -/
structure FieldRule where
  /-- The field is passed through as it is. -/
  ignore : Bool := false
  /-- The tokens that check the field, in order. -/
  checks : List Token := []
  /-- The acts that come after all checks, in order. -/
  acts : List Deferred := []
  /-- An array in the field is checked as one value. -/
  wholeArray : Bool := false
  /-- The field is checked even if it was not sent. -/
  demandsPresence : Bool := false
  deriving DecidableEq, Repr

/-- Does the test compare with a list? -/
def Test.isMembership : Test → Bool
  | .enum | .nenum => true
  | _ => false

/-- Does the test see an array that is checked as one value, and not its entries? -/
def Test.takesWholeArray (t : Test) : Bool := t.isMembership || t == .required

namespace FieldRule

/-- Adds a token to a rule. -/
def add (rule : FieldRule) (t : Token) : Except Fault FieldRule :=
  match t.test with
  | .ignore => .ok { rule with ignore := true }
  | .unknown name => .error (.unknownTest name)
  | test =>
    if test.isDeferred then do
      let act ← Deferred.ofToken? t
      return { rule with acts := rule.acts ++ act.toList }
    else .ok { rule with checks := rule.checks ++ [t] }

/-- The rule that a list of tokens makes. -/
def ofTokens (tokens : List Token) : Except Fault FieldRule :=
  tokens.foldlM add
    { wholeArray := tokens.head?.any fun t => t.test.isMembership && !t.modifiers.isEmpty
      demandsPresence := tokens.any (·.test.demandsPresence) }

/-- The checks of an array that is checked as one value. -/
def wholeChecks (rule : FieldRule) : List Token := rule.checks.filter (·.test.takesWholeArray)

/-- The checks of the entries of an array that is checked as one value. -/
def entryChecks (rule : FieldRule) : List Token := rule.checks.filter fun t => !t.test.takesWholeArray

end FieldRule

/-- The rules of a call by field, in the order in which the fields were first named. -/
abbrev RuleSet : Type := List (String × FieldRule)

namespace RuleSet

/-- Adds the rule that a text makes for a field. -/
def addText (set : RuleSet) (rule : String × String) : Except Failure RuleSet :=
  match FieldRule.ofTokens (tokenize rule.2) with
  | .ok made => .ok (Keyed.put set rule.1 made)
  | .error fault => .error { fault, field := some rule.1 }

/-- The rules of fields given as text. A field that is named again keeps its place and gets the new rule. -/
def ofTexts (rules : List (String × String)) : Except Failure RuleSet := rules.foldlM addText []

/-- Gives each field that was not sent, but whose rule demands it, a leaf that says so. -/
def prefill (rules : RuleSet) (fields : List (String × Value)) : List (String × Value) :=
  rules.foldl (fun fields (field, rule) =>
    if rule.demandsPresence && !rule.ignore && !Keyed.has fields field then
      Keyed.put fields field Value.empty
    else fields) fields

/-- The fields that are passed through as they are. -/
def ignored (rules : RuleSet) : List String := (rules.filter (·.2.ignore)).map Prod.fst

end RuleSet

end FieldRules
