import FieldRules.Collaborators
import FieldRules.Value
/-!
# Checks

A check judges one subject by one token: it accepts, replaces, passes over what was not submitted, or
finds a fault. It may look at the scope of its call and ask the collaborators, and can change neither.
-/

namespace FieldRules

/-- What a check looks at. -/
inductive Subject where
  | text (s : String)
  | bool (b : Bool)
  | upload (u : Upload)
  deriving DecidableEq, Repr

namespace Subject

/-- Blank, or an upload without a file. -/
def isEmpty : Subject → Bool
  | .text s => isBlankText s
  | .bool _ => false
  | .upload u => u.isMissing

/-- Nothing was submitted at all. -/
def isUnset : Subject → Bool
  | .text s => FieldRules.isUnset s
  | .bool _ => false
  | .upload u => u.isMissing

def text? : Subject → Option String
  | .text s => some s
  | _ => none

def upload? : Subject → Option Upload
  | .upload u => some u
  | _ => none

/-- Does the subject stand for an array that is checked as a whole? -/
def isArrayMark : Subject → Bool
  | .text s => s == arrayMark
  | _ => false

/-- The text of a subject that has one. -/
def shown? : Subject → Option String
  | .text s => some s
  | .bool b => some (if b then "true" else "false")
  | .upload _ => none

end Subject

/-- How a check that finds no fault ends. -/
inductive Outcome where
  /-- The value stays. -/
  | accepted
  /-- A text takes the place of the value. -/
  | replaced (s : String)
  /-- Nothing was submitted, so there is nothing to judge. -/
  | empty
  deriving DecidableEq, Repr

/-- What the checks of a call may look at. -/
structure Scope where
  collaborators : Collaborators
  /-- The regions of telephone numbers that the call prefers. -/
  telRegions : List String := []
  /-- The entries of the array that is being checked as a whole. -/
  stash : Option (List String) := none

/-- A judgement with the calls it took. -/
abbrev Check (α : Type) : Type := ExceptT Fault Traced α

namespace Check

/-- A judgement that takes no call. -/
def ofExcept {α : Type} (r : Except Fault α) : Check α := ExceptT.mk (.silent r)

/-- The answer of one call. -/
def ask {α : Type} (c : Call) (answer : α) : Check α := ExceptT.mk (.call c (.ok answer))

/-- The calls of a check and what came of it. -/
def outcome {α : Type} (c : Check α) : Traced (Except Fault α) := c

end Check

namespace Token

/-- The first value of a token. -/
def firstValue (t : Token) : Except Fault String :=
  match t.values with
  | [] => .error (.missingValue t.test.name)
  | v :: _ => .ok v

/-- The values of a token as one text, for tests that compare with a single text. -/
def joinedValue (t : Token) : Except Fault String :=
  if t.values.isEmpty then .error (.missingValue t.test.name) else .ok (Text.join "," t.values)

end Token

/-- The text of a subject, for a test of texts. -/
def Subject.expectText (test : Test) (s : Subject) : Except Fault String :=
  match s.shown? with
  | some x => .ok x
  | none => .error (.textExpected test)

/-- The upload of a subject, for a test of uploads. -/
def Subject.expectUpload (test : Test) (s : Subject) : Except Fault Upload :=
  match s.upload? with
  | some u => .ok u
  | none => .error (.uploadExpected test)

/-- Accepts if the condition holds, else finds the fault. -/
def accept (condition : Bool) (fault : Fault) : Except Fault Outcome :=
  if condition then .ok .accepted else .error fault

end FieldRules
