/-!
# Numbers of 53 bits

The format binary64 as exact data: a finite number is ± mantissa · 2^exponent. Every operation rounds
the exact result once, to the nearest number of the format and to the even one of two, through
`ofRatio`; nothing here depends on the machine's arithmetic.
-/

namespace FieldRules

/-- A number of the format binary64. -/
inductive Binary64 where
  /-- No number. -/
  | nan
  | infinite (negative : Bool)
  /-- The number ± mantissa · 2^exponent, with the mantissa below 2^53 and the exponent as low as it goes. -/
  | finite (negative : Bool) (mantissa : Nat) (exponent : Int)
  deriving DecidableEq, Repr, Inhabited

namespace Binary64

/-- The lowest exponent: below 2^52 · 2^lowest the numbers are evenly spaced. -/
def lowest : Int := -1074

/-- The highest exponent of a finite number. -/
def highest : Int := 971

/-- The leading bit of a mantissa that uses all its 53 bits: 2^52. -/
def leadingBit : Nat := 0x10000000000000

def zero (negative : Bool) : Binary64 := .finite negative 0 lowest

/-- The whole number nearest to `num / den`, the even one of two. -/
def roundEven (num den : Nat) : Nat :=
  let q := num / den
  let r := num % den
  if 2 * r < den ∨ (2 * r = den ∧ q % 2 = 0) then q else q + 1

/-- The whole number nearest to `num / den`, the greater one of two. -/
def roundUp (num den : Nat) : Nat := (2 * num + den) / (2 * den)

/-- The number ± mantissa · 2^exponent, where rounding may have carried the mantissa to 2^53. -/
def pack (negative : Bool) (mantissa : Nat) (exponent : Int) : Binary64 :=
  let (m, q) := if mantissa = 2 * leadingBit then (leadingBit, exponent + 1) else (mantissa, exponent)
  if q > highest then .infinite negative else .finite negative m q

/-- The exponent `e` with 2^e ≤ num / den < 2^(e+1), both positive. -/
def log2Ratio (num den : Nat) : Int :=
  let e : Int := (num.log2 : Int) - den.log2
  let holds := if e ≥ 0 then den <<< e.toNat ≤ num else den ≤ num <<< (-e).toNat
  if holds then e else e - 1

/-- The number nearest to ± num / den. -/
def ofRatio (negative : Bool) (num den : Nat) : Binary64 :=
  if num = 0 then zero negative else
  let q := max (log2Ratio num den - 52) lowest
  let m := if q ≥ 0 then roundEven num (den <<< q.toNat) else roundEven (num <<< (-q).toNat) den
  pack negative m q

/-- The number nearest to an integer. -/
def ofInt (n : Int) : Binary64 := ofRatio (n < 0) n.natAbs 1

/-- The magnitude mantissa · 2^exponent as numerator and denominator. -/
def ratio (mantissa : Nat) (exponent : Int) : Nat × Nat :=
  if exponent ≥ 0 then (mantissa <<< exponent.toNat, 1) else (mantissa, 1 <<< (-exponent).toNat)

def isFinite : Binary64 → Bool
  | .finite .. => true
  | _ => false

/-- The sign bit; a NaN shows none. -/
def isNegative : Binary64 → Bool
  | .nan => false
  | .infinite n => n
  | .finite n _ _ => n

/-! ## Arithmetic -/

def mul : Binary64 → Binary64 → Binary64
  | .nan, _ | _, .nan => .nan
  | .infinite a, .infinite b => .infinite (a != b)
  | .infinite a, .finite b m _ | .finite b m _, .infinite a =>
    if m = 0 then .nan else .infinite (a != b)
  | .finite a m p, .finite b n q =>
    let (x, y) := ratio m p
    let (u, v) := ratio n q
    ofRatio (a != b) (x * u) (y * v)

def div : Binary64 → Binary64 → Binary64
  | .nan, _ | _, .nan => .nan
  | .infinite _, .infinite _ => .nan
  | .infinite a, .finite b _ _ => .infinite (a != b)
  | .finite a _ _, .infinite b => zero (a != b)
  | .finite a m p, .finite b n q =>
    if n = 0 then (if m = 0 then .nan else .infinite (a != b)) else
    let (x, y) := ratio m p
    let (u, v) := ratio n q
    ofRatio (a != b) (x * v) (y * u)

/-- The product of `acc` and the power of `base` that the lowest `bits` bits of `n` denote: the base is
squared from bit to bit and multiplied in where the bit is set. -/
def powerOn (base acc : Binary64) (n : Nat) : (bits : Nat) → Binary64
  | 0 => acc
  | bits + 1 => powerOn (base.mul base) (if n % 2 = 1 then acc.mul base else acc) (n / 2) bits

/-- The power of a number by repeated squaring; a negative exponent inverts the power last. -/
def power (base : Binary64) (n : Int) : Binary64 :=
  let p := powerOn base (ofInt 1) n.natAbs (n.natAbs.log2 + 1)
  if n < 0 then (ofInt 1).div p else p

/-- The nearest whole number, the one farther from zero of two. -/
def roundHalfAway : Binary64 → Binary64
  | .finite s m q =>
    let (x, y) := ratio m q
    ofRatio s (roundUp x y) 1
  | x => x

/-- The whole part of a finite number, toward zero. -/
def truncate : Binary64 → Option Int
  | .finite s m q =>
    let (x, y) := ratio m q
    some (if s then -((x / y : Nat) : Int) else ((x / y : Nat) : Int))
  | _ => none

/-! ## Order -/

/-- The sign and size of a finite number in units of 2^lowest. -/
def scaled (negative : Bool) (mantissa : Nat) (exponent : Int) : Int :=
  let n : Int := (mantissa <<< (exponent - lowest).toNat : Nat)
  if negative then -n else n

/-- Is the first number at most the second? A NaN is comparable with nothing. -/
def le : Binary64 → Binary64 → Bool
  | .nan, _ | _, .nan => false
  | .infinite a, .infinite b => a || !b
  | .infinite a, .finite .. => a
  | .finite .., .infinite b => !b
  | .finite a m p, .finite b n q => scaled a m p ≤ scaled b n q

/-! ## Bits -/

/-- The bit of the sign: 2^63. -/
def signBit : Nat := 0x8000000000000000

/-- The 64 bits: sign, 11 bits of exponent, 52 bits of fraction. -/
def toBits : Binary64 → Nat
  | .nan => 0x7FF8000000000000
  | .infinite s => (if s then signBit else 0) + 0x7FF0000000000000
  | .finite s m q =>
    let field := if m < leadingBit then 0 else (q - lowest + 1).toNat
    (if s then signBit else 0) + field * leadingBit + m % leadingBit

def ofBits (b : Nat) : Binary64 :=
  let s := b / signBit % 2 = 1
  let field := b / leadingBit % 0x800
  let fraction := b % leadingBit
  if field = 0x7FF then (if fraction = 0 then .infinite s else .nan)
  else if field = 0 then .finite s fraction lowest
  else .finite s (leadingBit + fraction) (lowest + (field - 1 : Nat))

example : ofRatio false 1 10 = ofBits 0x3FB999999999999A := by decide +kernel
example : ofInt 0x20000000000001 = ofInt 0x20000000000000 := by decide +kernel
example : (ofInt 10).power 22 = ofInt 10000000000000000000000 := by decide +kernel
example : (ofRatio true 1 2).roundHalfAway = ofInt (-1) := by decide +kernel

end Binary64

end FieldRules
