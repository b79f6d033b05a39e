import FieldRules.Text.Ascii
/-!
# Whole numbers as text

Reading accepts one leading sign and ASCII digits only, and nothing else; the readers differ in the
signs and the range they allow.
-/

namespace FieldRules.Text

/-- The number that a run of digits denotes, read on from `n`. -/
def digitsValue (n : Nat) (cs : List Char) : Nat :=
  cs.foldl (fun v c => 10 * v + (c.toNat - '0'.toNat)) n

/-- The number of a non-empty text of ASCII digits. -/
def digits? (cs : List Char) : Option Nat :=
  if cs.isEmpty || !cs.all isAsciiDigit then none else some (digitsValue 0 cs)

/-! ## Whole numbers of so many bits -/

/-- One more than the greatest number of 31 bits. -/
def bound31 : Nat := 0x80000000

/-- One more than the greatest number of 32 bits. -/
def bound32 : Nat := 0x100000000

/-- One more than the greatest number of 63 bits. -/
def bound63 : Nat := 0x8000000000000000

/-- One more than the greatest number of 64 bits. -/
def bound64 : Nat := 0x10000000000000000

/-- A whole number below `bound`, with an optional `+`. -/
def natBelow? (bound : Nat) (s : String) : Option Nat :=
  let body := match s.toList with
    | '+' :: cs => cs
    | cs => cs
  (digits? body).filter (· < bound)

/-- A whole number of 64 bits, without sign bit. -/
def nat64? (s : String) : Option Nat := natBelow? bound64 s

/-- A whole number of 64 bits in two's complement, with an optional sign. -/
def int64? (s : String) : Option Int :=
  match s.toList with
  | '-' :: cs => ((digits? cs).filter (· ≤ bound63)).map fun n => -(n : Int)
  | '+' :: cs => ((digits? cs).filter (· < bound63)).map fun n => (n : Int)
  | cs => ((digits? cs).filter (· < bound63)).map fun n => (n : Int)

/-! ## Writing -/

/-- The decimal digits of a whole number, without leading zeros. -/
def showNat (n : Nat) : String := String.ofList (Nat.toDigits 10 n)

/-- The decimal digits of an integer, after a `-` if it is negative. -/
def showInt : Int → String
  | .ofNat n => showNat n
  | .negSucc n => "-" ++ showNat (n + 1)

/-- Decimal digits filled up with zeros on the left to `width` places. -/
def padded (width n : Nat) : List Char :=
  let ds := Nat.toDigits 10 n
  List.replicate (width - ds.length) '0' ++ ds

end FieldRules.Text
