import FieldRules.Check.Basic
/-!
# Tests of membership and identity

A list of a rule is compared with what was submitted: one text, or the entries of an array that is checked
as a whole.
-/

namespace FieldRules

/-- How the submitted entries must relate to the list of a rule. -/
inductive Relation where
  /-- The entries, with commas between, are one member. -/
  | joined
  /-- The entries hold every member. -/
  | superset
  /-- The entries share a member with the list. -/
  | intersects
  /-- There are entries, and each is a member. -/
  | subset
  deriving DecidableEq, Repr

namespace Relation

/-- The relation that the modifiers of a token ask for. -/
def ofToken (t : Token) : Relation :=
  if t.has .array then .superset
  else if t.has .any then .intersects
  else if t.has .only then .subset
  else .joined

def holds (r : Relation) (entries list : List String) : Bool :=
  match r with
  | .joined => list.contains (Text.join "," entries)
  | .superset => list.all entries.contains
  | .intersects => list.any entries.contains
  | .subset => !entries.isEmpty && entries.all list.contains

end Relation

namespace Check

/-- The entries that were submitted: those of the array that the subject stands for, or its one text. -/
def submitted (stash : Option (List String)) (s : Subject) : List String :=
  match s.isArrayMark, stash with
  | true, some entries => entries
  | _, _ => s.shown?.toList

/-- Does the relation hold between the submitted entries and the list of a token? -/
def isMember (scope : Scope) (t : Token) (s : Subject) : Except Fault Bool :=
  if t.values.isEmpty then .error (.missingValue t.test.name)
  else .ok ((Relation.ofToken t).holds (submitted scope.stash s) t.values)

def enum (scope : Scope) (t : Token) (s : Subject) : Except Fault Outcome := do
  accept (← isMember scope t s) (.notListed t.values)

def nenum (scope : Scope) (t : Token) (s : Subject) : Except Fault Outcome := do
  accept (!(← isMember scope t s)) (.listed t.values)

def equal (t : Token) (s : Subject) : Except Fault Outcome := do
  let expected ← t.joinedValue
  accept (s.shown? == some expected) (.different expected)

def nequal (t : Token) (s : Subject) : Except Fault Outcome := do
  let unwanted ← t.joinedValue
  accept (s.shown? != some unwanted) (.forbidden unwanted)

/-- Refuses a blank text, an array without entries and an upload without a file. -/
def required (scope : Scope) (s : Subject) : Except Fault Outcome :=
  if s.isArrayMark then accept (scope.stash.any fun entries => !entries.isEmpty) .valueMissing
  else match s with
    | .upload u => accept (!u.isMissing) .uploadMissing
    | s => accept (!s.isEmpty) .valueMissing

/-- Refuses what is no JSON; with the modifier for arrays, also what is no collection. -/
def json (c : Collaborators) (t : Token) (s : Subject) : Except Fault Outcome := do
  let some text := s.text? | throw .notJsonText
  let some document := Json.parse? text | throw (.notJson (c.jsonFlaw text))
  let isCollection := match document with
    | .array _ | .object _ => true
    | _ => false
  accept (!t.has .array || isCollection) .notCollection

end Check

end FieldRules
