import FieldRules.Keyed
import FieldRules.Binary64.Decimal
/-!
# JSON values

Objects keep the order of their keys. Whole numbers that fit 64 bits, with or without a sign bit, stay
exact; every other number is a binary64 number.
-/

namespace FieldRules

/-- A number of a document. -/
inductive Json.Number where
  /-- A whole number from -2^63 to 2^64 - 1. -/
  | whole (n : Int)
  | float (x : Binary64)
  deriving DecidableEq, Repr

/-- A JSON value. -/
inductive Json where
  | null
  | bool (b : Bool)
  | number (n : Json.Number)
  | string (s : String)
  | array (items : List Json)
  | object (entries : List (String × Json))
  deriving Repr, Inhabited

end FieldRules
