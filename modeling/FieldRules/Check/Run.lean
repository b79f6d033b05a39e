import FieldRules.Check.Address
import FieldRules.Check.Calendar
import FieldRules.Check.Choice
import FieldRules.Check.Comparison
import FieldRules.Check.Text
import FieldRules.Check.Upload
import FieldRules.Rule.Synonyms
/-!
# Running a check

Every test is run in the same way: its modifiers are looked at first, and what was not submitted is passed
over unless the test judges that too.
-/

namespace FieldRules

namespace Test

/-- Does the test judge what was not submitted? -/
def judgesEmpty : Test → Bool
  | .required | .file => true
  | _ => false

/-- Is the modifier one of the test's own? -/
def supports (test : Test) (m : Modifier) : Bool := test.modifiers.any (·.1 == m)

end Test

namespace Check

/-- What the test of a token finds, whatever the modifiers. A test that acts on the finished tree accepts. -/
def judge (scope : Scope) (t : Token) (s : Subject) : Check Outcome :=
  match t.test with
  | .unknown name => throw (.unknownTest name)
  | .format | .null | .notNull | .ignore => pure .accepted
  | .alpha => ofExcept (alpha t s)
  | .alphaNumber => ofExcept (alphaNumber t s)
  | .boolean => ofExcept (boolean s)
  | .date => ofExcept (date s)
  | .dateTime => ofExcept (dateTime s)
  | .email => email scope.collaborators t s
  | .enum => ofExcept (enum scope t s)
  | .equal => ofExcept (equal t s)
  | .extension => ofExcept (extension t s)
  | .file => file scope s
  | .ip => ofExcept (ip t s)
  | .json => ofExcept (json scope.collaborators t s)
  | .length => ofExcept (length t s)
  | .max => ofExcept (atMost t s)
  | .maxLength => ofExcept (maxLength t s)
  | .maxWords => ofExcept (maxWords t s)
  | .mime => ofExcept (mime scope.collaborators t s)
  | .min => ofExcept (atLeast t s)
  | .minLength => ofExcept (minLength t s)
  | .minWords => ofExcept (minWords t s)
  | .month => ofExcept (month s)
  | .nenum => ofExcept (nenum scope t s)
  | .nequal => ofExcept (nequal t s)
  | .number => ofExcept (number t s)
  | .password => ofExcept (password scope.collaborators t s)
  | .regex => ofExcept (regex scope.collaborators t s)
  | .required => ofExcept (required scope s)
  | .size => ofExcept (size t s)
  | .string => ofExcept (string s)
  | .tel => tel scope t s
  | .time => ofExcept (time s)
  | .url => url scope.collaborators t s
  | .week => ofExcept (week s)

/-- Runs a test that acts while fields are checked. -/
def evaluate (scope : Scope) (t : Token) (s : Subject) : Check Outcome :=
  match t.modifiers.find? fun m => !t.test.supports m with
  | some m => throw (.unsupportedModifier t.test.name m.name)
  | none => if !t.test.judgesEmpty && s.isUnset then return .empty else judge scope t s

/-- Runs any test. An unknown one is a fault, and one that acts on the finished tree accepts. -/
def run (scope : Scope) (t : Token) (s : Subject) : Check Outcome :=
  match t.test with
  | .unknown name => throw (.unknownTest name)
  | test => if test.isDeferred then return .accepted else evaluate scope t s

end Check

end FieldRules
