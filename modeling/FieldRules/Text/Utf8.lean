/-!
# UTF-8

Reading bytes as characters, one byte at a time. The reading ends well, inside a character, or at the first
byte that no text has in its place. `decode_take_ne_invalid` says that cutting bytes short never makes a
good text bad.
-/

namespace FieldRules.Text.Utf8

/-- What the bytes so far have left open. -/
structure Pending where
  /-- The bytes that the character still lacks. -/
  missing : Nat := 0
  /-- The next byte is at least this. -/
  low : Nat := 0x80
  /-- The next byte is at most this. -/
  high : Nat := 0xBF
  /-- The bits of the character so far. -/
  bits : Nat := 0
  deriving DecidableEq, Repr

/-- What a first byte of a character opens, if it is one. The second byte is narrowed where a character
would have a shorter form, would be a surrogate, or would lie beyond the last character. -/
def opening? (b : Nat) : Option Pending :=
  if b < 0x80 then some { bits := b }
  else if b < 0xC2 then none
  else if b < 0xE0 then some { missing := 1, bits := b % 32 }
  else if b < 0xF0 then
    some { missing := 2, low := if b = 0xE0 then 0xA0 else 0x80,
           high := if b = 0xED then 0x9F else 0xBF, bits := b % 16 }
  else if b < 0xF5 then
    some { missing := 3, low := if b = 0xF0 then 0x90 else 0x80,
           high := if b = 0xF4 then 0x8F else 0xBF, bits := b % 8 }
  else none

namespace Pending

/-- What is open after one more byte, if the byte may stand there. -/
def step? (p : Pending) (b : Nat) : Option Pending :=
  match p.missing with
  | 0 => opening? b
  | n + 1 =>
    if p.low ≤ b ∧ b ≤ p.high then some { missing := n, bits := 64 * p.bits + b % 64 } else none

/-- The character that is complete, if nothing is open. -/
def character (p : Pending) : List Char := if p.missing = 0 then [Char.ofNat p.bits] else []

end Pending

/-- How a reading ends. -/
inductive Ending where
  | complete
  /-- The bytes end inside a character. -/
  | cut
  /-- A byte cannot stand where it does. -/
  | invalid
  deriving DecidableEq, Repr

/-- The complete characters of the bytes after `p`, and how the reading ends. -/
def decodeFrom (p : Pending) : List UInt8 → List Char × Ending
  | [] => ([], if p.missing = 0 then .complete else .cut)
  | b :: bs =>
    match p.step? b.toNat with
    | none => ([], .invalid)
    | some q => let (cs, ending) := decodeFrom q bs; (q.character ++ cs, ending)

/-- The characters that bytes stand for, and how their reading ends. -/
def decode (bytes : List UInt8) : List Char × Ending := decodeFrom {} bytes

theorem decodeFrom_take_ne_invalid {p : Pending} {bytes : List UInt8} (n : Nat)
    (h : (decodeFrom p bytes).2 ≠ .invalid) : (decodeFrom p (bytes.take n)).2 ≠ .invalid := by
  induction bytes generalizing p n with
  | nil => simpa using h
  | cons b bs ih =>
    cases n with
    | zero => simp only [List.take_zero, decodeFrom]; split <;> simp
    | succ n =>
      simp only [List.take_succ_cons, decodeFrom] at h ⊢
      split
      · rename_i hb
        simp [hb] at h
      · rename_i q hb
        simp only [hb] at h
        exact ih n h

theorem decode_take_ne_invalid {bytes : List UInt8} (n : Nat) (h : (decode bytes).2 ≠ .invalid) :
    (decode (bytes.take n)).2 ≠ .invalid :=
  decodeFrom_take_ne_invalid n h

end FieldRules.Text.Utf8
