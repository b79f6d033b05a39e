import FieldRules.Text.Whole
import FieldRules.Binary64.Shortest
/-!
# Decimal text of binary64 numbers

Reading takes an optional sign, digits with at most one point, and an optional exponent, or one of the
words `inf`, `infinity` and `nan`; the result is the nearest number. Writing takes the shortest decimal
in one of two styles.
-/

namespace FieldRules

/-- A decimal number: ± digits · 10^power. -/
structure Decimal where
  negative : Bool
  digits : Nat
  power : Int
  deriving DecidableEq, Repr

namespace Decimal

open FieldRules.Text

/-- The sign of a number and what follows it. -/
def sign : List Char → Bool × List Char
  | '-' :: cs => (true, cs)
  | '+' :: cs => (false, cs)
  | cs => (false, cs)

/-- The exponent after the mantissa: nothing, or `e` and a signed whole number. -/
def exponent? : List Char → Option Int
  | [] => some 0
  | c :: cs =>
    if c = 'e' ∨ c = 'E' then
      let (negative, cs) := sign cs
      (digits? cs).map fun n => if negative then -(n : Int) else n
    else none

/-- Digits with at most one point and at least one digit, then the exponent. -/
def unsigned? (negative : Bool) (cs : List Char) : Option Decimal :=
  let whole := cs.takeWhile isAsciiDigit
  let rest := cs.dropWhile isAsciiDigit
  let (fraction, rest) := match rest with
    | '.' :: rest => (rest.takeWhile isAsciiDigit, rest.dropWhile isAsciiDigit)
    | rest => ([], rest)
  if whole.isEmpty && fraction.isEmpty then none else
  (exponent? rest).map fun e =>
    { negative, digits := digitsValue 0 (whole ++ fraction), power := e - fraction.length }

/-- The decimal number that a text denotes. -/
def read? (cs : List Char) : Option Decimal :=
  let (negative, cs) := sign cs
  unsigned? negative cs

/-- The nearest binary64 number. A magnitude from 10^310 on is infinite and one below 10^-330 is zero,
whatever the digits. -/
def toBinary64 (d : Decimal) : Binary64 :=
  if d.digits = 0 then .zero d.negative else
  let top := (Nat.toDigits 10 d.digits).length + d.power
  if top > 310 then .infinite d.negative
  else if top < -330 then .zero d.negative
  else
    let (x, y) := Binary64.decimalRatio d.digits d.power
    .ofRatio d.negative x y

end Decimal

namespace Binary64

open FieldRules.Text

/-- The number that a text denotes. -/
def read? (s : String) : Option Binary64 :=
  let (negative, body) := Decimal.sign s.toList
  let word := String.ofList (body.map Char.toLower)
  if word = "inf" ∨ word = "infinity" then some (.infinite negative)
  else if word = "nan" then some .nan
  else (Decimal.read? s.toList).map Decimal.toBinary64

/-- How a finite number is written. -/
structure Style where
  /-- Which of two equally near decimals is taken. -/
  tie : Tie
  /-- Is a number whose leading digit has this power of ten written without exponent? -/
  positional : Int → Bool
  /-- Does a whole number keep `.0`? -/
  keepPoint : Bool

/-- Digits with the point before the place of 10^-1. -/
def positionalText (keepPoint : Bool) (ds : List Char) (p : Int) : List Char :=
  if p ≥ 0 then
    ds ++ List.replicate p.toNat '0' ++ (if keepPoint then ['.', '0'] else [])
  else
    let places := (-p).toNat
    let ds := List.replicate (places + 1 - ds.length) '0' ++ ds
    ds.take (ds.length - places) ++ '.' :: ds.drop (ds.length - places)

/-- One digit before the point, and the power of ten after `e` with its sign. -/
def scientificText (ds : List Char) (e : Int) : List Char :=
  let mantissa := match ds with
    | [] => []
    | [d] => [d]
    | d :: ds => d :: '.' :: ds
  mantissa ++ 'e' :: (if e < 0 then '-' else '+') :: Nat.toDigits 10 e.natAbs

/-- A finite number ± mantissa · 2^exponent in a style. -/
def finiteText (style : Style) (negative : Bool) (mantissa : Nat) (exponent : Int) : String :=
  let (n, p) := if mantissa = 0 then (0, 0) else shortest style.tie mantissa exponent
  let ds := Nat.toDigits 10 n
  let lead := p + ds.length - 1
  let body :=
    if style.positional lead then positionalText style.keepPoint ds p else scientificText ds lead
  String.ofList (if negative then '-' :: body else body)

/-- Plain text: never an exponent, no fraction after a whole number, the upper of two decimals. -/
def plain : Style := { tie := .upper, positional := fun _ => true, keepPoint := false }

/-- The text of a number in messages and text leaves. -/
def toText : Binary64 → String
  | .nan => "NaN"
  | .infinite s => if s then "-inf" else "inf"
  | .finite s m q => finiteText plain s m q

end Binary64

end FieldRules
