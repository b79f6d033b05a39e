import FieldRules.Check.Comparison
import FieldRules.Check.Text
/-!
# Conversions

A conversion turns a leaf into a value of another type. It leaves blank texts, nulls, uploads and maps as they
are.
-/

namespace FieldRules

open FieldRules.Text

namespace Target

/-- The number of decimals of a rounding, none if the token names none. -/
def precision (t : Token) : Except Fault Nat :=
  match t.values with
  | [] => .ok 0
  | raw :: _ => do
    let n ← parseCount Test.format.name raw
    if n < bound32 then return n else throw .precisionTooLarge

/-- The target that the first modifier of a token names. -/
def ofToken (t : Token) : Except Fault Target :=
  match t.modifiers with
  | [] => .error .formatWithoutTarget
  | .string :: _ => .ok .string
  | .integer :: _ => .ok .integer
  | .float :: _ => .ok .float
  | .round :: _ => (precision t).map .round
  | .boolean :: _ => .ok .boolean
  | .dateTime :: _ => .ok .dateTime
  | m :: _ => .error (.unsupportedModifier Test.format.name m.name)

end Target

/-- Rounds to so many decimals, a half away from zero. The count is a signed number of 32 bits. -/
def roundTo (x : Binary64) (precision : Nat) : Binary64 :=
  let places : Int := if precision < bound31 then precision else (precision : Int) - bound32
  let factor := (Binary64.ofInt 10).power places
  (x.mul factor).roundHalfAway.div factor

/-- A moment: a written one, the midnight of a date, or seconds from 1970 after an `@`. -/
def readMoment? (s : String) : Option Moment :=
  (Moment.parse? Moment.comparableShapes s).or
    (((Date.parse? s).map Moment.ofDate).or ((timestamp? s).bind Moment.ofTimestamp?))

namespace Target

/-- The value of a text as the target, where `s` is the text without its outer blanks. -/
def ofText? (target : Target) (s : String) : Option Value :=
  match target with
  | .string => none
  | .integer =>
    let numeral := normalizeDecimal s
    if isNumeric numeral then (truncateToInt numeral).toOption.map .int else none
  | .float => (parseFiniteFloat (normalizeDecimal s)).toOption.map .float
  | .round precision =>
    (parseFiniteFloat (normalizeDecimal s)).toOption.map fun x => .float (roundTo x precision)
  | .boolean => (parseBool s).map .bool
  | .dateTime => (readMoment? s).map .moment

/-- The converted form of a scalar leaf, given its text. -/
def convertScalar (target : Target) (v : Value) (text : String) : Except Fault Value :=
  match target, v with
  | .string, _ => .ok (.text text)
  | .boolean, .bool b => .ok (.bool b)
  | target, _ =>
    match target.ofText? (trim text) with
    | some v => .ok v
    | none => .error (.notConvertible (trim text) target)

/-- The converted form of a node. -/
def convert (target : Target) (v : Value) : Except Fault Value :=
  match v with
  | .null | .upload _ | .map _ => .ok v
  | v => if v.isBlank then .ok v else convertScalar target v (v.scalarText?.getD "")

end Target

end FieldRules
