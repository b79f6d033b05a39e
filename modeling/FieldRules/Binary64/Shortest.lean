import FieldRules.Binary64.Basic
/-!
# The shortest decimal that reads back

Of all decimals that round to a given number, the one with the fewest digits, and of those the
nearest. The search tries one digit, two digits, and so on: on each grid only the two neighbours of
the number can be nearest to it.
-/

namespace FieldRules.Binary64

/-- Which of two equally near decimals is taken. -/
inductive Tie where
  | upper
  | even
  deriving DecidableEq, Repr

/-- The power 10^`k`. -/
def tenTo (k : Nat) : Nat := Nat.pow 10 k

/-- Numerator and denominator of `n` · 10^`p`. -/
def decimalRatio (n : Nat) (p : Int) : Nat × Nat :=
  if p ≥ 0 then (n * tenTo p.toNat, 1) else (n, tenTo (-p).toNat)

/-- A positive number with the ends of the interval of reals that round to it, over one denominator. -/
structure Neighbourhood where
  low : Nat
  value : Nat
  high : Nat
  den : Nat
  /-- Do the ends themselves round to the number? -/
  closed : Bool

/-- The reals that round to mantissa · 2^exponent. Below a power of two the numbers are twice as dense. -/
def neighbourhood (mantissa : Nat) (exponent : Int) : Neighbourhood :=
  let gap := if mantissa = leadingBit ∧ exponent > lowest then 1 else 2
  let (value, den) := ratio (4 * mantissa) (exponent - 2)
  let unit := value / (4 * mantissa)
  { low := value - gap * unit, value, high := value + 2 * unit, den, closed := mantissa % 2 = 0 }

/-- Does the decimal `n` · 10^`p` round to the number? -/
def Neighbourhood.has (r : Neighbourhood) (n : Nat) (p : Int) : Bool :=
  let (x, y) := decimalRatio n p
  let v := x * r.den
  if r.closed then r.low * y ≤ v && v ≤ r.high * y else r.low * y < v && v < r.high * y

/-- The least `k` with value < 10^`k`, found near the estimate from the binary logarithm. -/
def magnitude (r : Neighbourhood) : Int :=
  let start := log2Ratio r.value r.den * 30103 / 100000
  let below (k : Int) : Bool :=
    let (x, y) := decimalRatio 1 k
    r.value * y < x * r.den
  ([start - 1, start, start + 1].find? below).getD (start + 2)

/-- The nearest decimal that reads back on the grid 10^`p`, if one does. -/
def onGrid (tie : Tie) (r : Neighbourhood) (p : Int) : Option Nat :=
  let (x, y) := decimalRatio 1 p
  let a := r.value * y / (r.den * x)
  match r.has a p, r.has (a + 1) p with
  | false, false => none
  | true, false => some a
  | false, true => some (a + 1)
  | true, true =>
    let twice := 2 * r.value * y
    let middle := (2 * a + 1) * r.den * x
    if twice < middle then some a
    else if middle < twice then some (a + 1)
    else match tie with
      | .upper => some (a + 1)
      | .even => some (if a % 2 = 0 then a else a + 1)

/-- Digits less at most `count` trailing zeros, and the power of ten of the last one. -/
def dropZeros (n : Nat) (p : Int) : (count : Nat) → Nat × Int
  | 0 => (n, p)
  | count + 1 => if n % 10 = 0 then dropZeros (n / 10) (p + 1) count else (n, p)

/-- The digits and the power of ten of the shortest decimal that rounds to mantissa · 2^exponent.
Seventeen digits always suffice. -/
def shortest (tie : Tie) (mantissa : Nat) (exponent : Int) : Nat × Int :=
  let r := neighbourhood mantissa exponent
  let k := magnitude r
  let hit := (List.range 17).findSome? fun i =>
    let p := k - (i + 1 : Nat)
    (onGrid tie r p).map fun n => (n, p)
  let (n, p) := hit.getD (0, 0)
  dropZeros n p 17

example : shortest .upper leadingBit (-77) = (29802322387695313, -24) := by decide +kernel
example : shortest .even leadingBit (-77) = (29802322387695312, -24) := by decide +kernel
example : shortest .upper 1 lowest = (5, -324) := by decide +kernel

end FieldRules.Binary64
