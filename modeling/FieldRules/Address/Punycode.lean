import FieldRules.Text.Ascii
import FieldRules.Text.Pieces
/-!
# Punycode

Labels of any characters written with ASCII letters, digits and hyphens: first the ASCII characters, then
the others as a run of numbers that say which comes where.
-/

namespace FieldRules.Punycode

open FieldRules.Text

def base : Nat := 36

/-- The digit of a value below 36. -/
def digitChar (d : Nat) : Char := if d < 26 then Char.ofNat (0x61 + d) else Char.ofNat (0x30 + d - 26)

/-- The value of a digit. -/
def digitValue? (c : Char) : Option Nat :=
  if isAsciiLetter c then some (c.toLower.toNat - 'a'.toNat)
  else if isAsciiDigit c then some (c.toNat - '0'.toNat + 26)
  else none

/-- The least value of a last digit in the place `k`. -/
def threshold (bias k : Nat) : Nat := if k ≤ bias then 1 else if bias + 26 ≤ k then 26 else k - bias

theorem threshold_pos (bias k : Nat) : 1 ≤ threshold bias k := by
  unfold threshold
  split
  · omega
  · split <;> omega

def settle (delta k : Nat) : Nat :=
  if 455 < delta then settle (delta / 35) (k + base) else k + 36 * delta / (delta + 38)
termination_by delta
decreasing_by exact Nat.div_lt_self (by omega) (by omega)

/-- The bias after a number, given how many characters stand now. -/
def adapt (delta count : Nat) (first : Bool) : Nat :=
  let d := if first then delta / 700 else delta / 2
  settle (d + d / count) 0

/-! ## Writing -/

/-- The digits of a number, the least valued first. -/
def digits (bias k q : Nat) : List Char :=
  let t := threshold bias k
  if q < t then [digitChar q]
  else digitChar (t + (q - t) % (base - t)) :: digits bias (k + base) ((q - t) / (base - t))
termination_by q
decreasing_by
  have h1 := threshold_pos bias k
  have h2 : (q - threshold bias k) / (base - threshold bias k) ≤ q - threshold bias k := Nat.div_le_self _ _
  omega

/-- How far the writing has come. -/
structure Progress where
  delta : Nat
  bias : Nat
  /-- How many characters stand. -/
  count : Nat
  first : Bool
  out : List Char

/-- Passes over the characters once, for the insertion of all that are `n`. -/
def Progress.round (n : Nat) (p : Progress) (cs : List Char) : Progress :=
  cs.foldl (fun p c =>
    if c.toNat < n then { p with delta := p.delta + 1 }
    else if c.toNat = n then
      { delta := 0, bias := adapt p.delta (p.count + 1) p.first, count := p.count + 1, first := false,
        out := p.out ++ digits p.bias base p.delta }
    else p) p

/-- The rounds for all characters from `n` up. -/
def encodeFrom (cs : List Char) (n : Nat) (p : Progress) : (rounds : Nat) → List Char
  | 0 => p.out
  | rounds + 1 =>
    match ((cs.map Char.toNat).filter (n ≤ ·)).min? with
    | none => p.out
    | some m =>
      let p := { p with delta := p.delta + (m - n) * (p.count + 1) }
      let p := p.round m cs
      encodeFrom cs (m + 1) { p with delta := p.delta + 1 } rounds

/-- The written form of a label. -/
def encode (cs : List Char) : List Char :=
  let plain := cs.filter fun c => c.toNat < 0x80
  let start := if plain.isEmpty then [] else plain ++ ['-']
  encodeFrom cs 0x80 { delta := 0, bias := 72, count := plain.length, first := true, out := start }
    cs.length

/-! ## Reading -/

/-- A number and what follows its digits. -/
def number? (bias k weight value : Nat) : List Char → Option (Nat × List Char)
  | [] => none
  | c :: rest => do
    let d ← digitValue? c
    let value := value + d * weight
    let t := threshold bias k
    if d < t then return (value, rest)
    number? bias (k + base) (weight * (base - t)) value rest

/-- Inserts the characters that the numbers name. -/
def insertions? (out : List Char) (n i bias : Nat) : (fuel : Nat) → List Char → Option (List Char)
  | _, [] => some out
  | 0, _ => none
  | fuel + 1, cs => do
    let (value, rest) ← number? bias base 1 i cs
    let count := out.length + 1
    let bias := adapt (value - i) count (i == 0)
    let n := n + value / count
    let place := value % count
    if 0x10FFFF < n ∨ (0xD800 ≤ n ∧ n ≤ 0xDFFF) then none
    else insertions? (out.take place ++ Char.ofNat n :: out.drop place) n (place + 1) bias fuel rest

/-- The label that a written form stands for. -/
def decode? (cs : List Char) : Option (List Char) :=
  match cutAt (· == '-') cs.reverse with
  | some (tail, plain) => insertions? plain.reverse 0x80 0 72 (tail.length + 1) tail.reverse
  | none => insertions? [] 0x80 0 72 (cs.length + 1) cs

end FieldRules.Punycode
