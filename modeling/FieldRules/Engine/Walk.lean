import FieldRules.Check.Run
import FieldRules.Engine.FieldRule
/-!
# Walking the tree

Every field with a rule is visited in the order of the rules, and every leaf in it is put to the checks of the
rule one after another. The first failure ends the walk; what was replaced before it stays.
-/

namespace FieldRules

/-- The acts for the leaf at a path. -/
structure Note where
  path : List String
  acts : List Deferred
  deriving DecidableEq, Repr

/-- A part of the tree after a walk through it, with the notes on it or the failure. -/
structure Walked (α : Type) where
  value : α
  outcome : Except Failure (List Note)

/-- The notes on the two halves of a part. -/
def Walked.after {α : Type} (notes : List Note) (w : Walked α) : Walked α :=
  { w with outcome := w.outcome.map (notes ++ ·) }

/-- What the checks of a leaf look at. -/
def Subject.ofValue : Value → Subject
  | .text s => .text s
  | .bool b => .bool b
  | .upload u => .upload u
  | v => .text (v.scalarText?.getD "")

/-- The leaf after a check that found no fault. An upload never gives way to nothing. -/
def Outcome.update : Outcome → Value → Value
  | .accepted, v => v
  | .replaced s, _ => .text s
  | .empty, .upload u => .upload u
  | .empty, _ => Value.empty

namespace Walk

/-- The text of a path. -/
def pathText (path : List String) : String := Text.join "." path

/-- Puts a leaf to checks, each of which sees what those before made of it. -/
def checkLeaf (scope : Scope) (path : List String) : List Token → Value → Traced (Value × Option Failure)
  | [], v => .silent (v, none)
  | t :: ts, v => do
    match ← (Check.evaluate scope t (Subject.ofValue v)).outcome with
    | .ok outcome => checkLeaf scope path ts (outcome.update v)
    | .error fault => return (v, some { fault, field := some (pathText path) })

/-- Puts a leaf to checks, and notes acts for it if it passes. -/
def leaf (scope : Scope) (checks : List Token) (acts : List Deferred) (path : List String) (v : Value) :
    Traced (Walked Value) := do
  let (v, failure) ← checkLeaf scope path checks v
  return ⟨v, match failure with
    | some f => .error f
    | none => .ok [⟨path, acts⟩]⟩

mutual

/-- Visits every leaf of a node in order. With `probing`, an empty map is visited as a leaf on which nothing
was submitted. -/
def visit (probing : Bool) (leaf : List String → Value → Traced (Walked Value)) (path : List String) :
    Value → Traced (Walked Value)
  | .map entries =>
    if entries.isEmpty then
      if probing then do return { ← leaf path Value.empty with value := .map entries }
      else .silent ⟨.map entries, .ok []⟩
    else do
      let w ← visitEntries probing leaf path entries
      return ⟨.map w.value, w.outcome⟩
  | v => leaf path v
termination_by structural v => v

def visitEntries (probing : Bool) (leaf : List String → Value → Traced (Walked Value))
    (path : List String) : List (String × Value) → Traced (Walked (List (String × Value)))
  | [] => .silent ⟨[], .ok []⟩
  | (key, v) :: rest => do
    let w ← visit probing leaf (path ++ [key]) v
    match w.outcome with
    | .error f => return ⟨(key, w.value) :: rest, .error f⟩
    | .ok notes =>
      let r ← visitEntries probing leaf path rest
      return Walked.after notes ⟨(key, w.value) :: r.value, r.outcome⟩
termination_by structural es => es

end

mutual

/-- The texts of the scalar leaves of a node, in order. -/
def scalars : Value → List String
  | .map entries => entryScalars entries
  | v => v.scalarText?.toList
termination_by structural v => v

def entryScalars : List (String × Value) → List String
  | [] => []
  | (_, v) :: rest => scalars v ++ entryScalars rest
termination_by structural es => es

end

/-- Checks an array as one value, by a stand-in whose entries are in the stash, and then its entries. -/
def wholeArray (scope : Scope) (rule : FieldRule) (path : List String) (entries : List (String × Value)) :
    Traced (Walked Value) := do
  let scope := { scope with stash := some (entryScalars entries) }
  let (_, failure) ← checkLeaf scope path rule.wholeChecks (.text arrayMark)
  match failure with
  | some f => return ⟨.map entries, .error f⟩
  | none => visit false (leaf scope rule.entryChecks rule.acts) path (.map entries)

/-- Checks the value of a field by its rule. -/
def field (scope : Scope) (rule : FieldRule) (path : List String) (v : Value) : Traced (Walked Value) :=
  let plain := visit true (leaf scope rule.checks rule.acts) path v
  match v with
  | .map entries =>
    if rule.wholeArray && !entries.isEmpty then wholeArray scope rule path entries else plain
  | _ => plain

/-- Walks the fields that have a rule, in the order of the rules. -/
def fields (scope : Scope) : RuleSet → List (String × Value) →
    Traced (Walked (List (String × Value)))
  | [], tree => .silent ⟨tree, .ok []⟩
  | (name, rule) :: rules, tree =>
    match Keyed.get? tree name with
    | none => fields scope rules tree
    | some v =>
      if rule.ignore then fields scope rules tree else do
        let w ← field scope rule [name] v
        let tree := Keyed.put tree name w.value
        match w.outcome with
        | .error f => return ⟨tree, .error f⟩
        | .ok notes => return Walked.after notes (← fields scope rules tree)

/-- The plan that notes make. -/
def plan (notes : List Note) : List (String × Plan) :=
  notes.foldl (fun entries note => Plan.note entries note.path note.acts) []

end Walk

end FieldRules
