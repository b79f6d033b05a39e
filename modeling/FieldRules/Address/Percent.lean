import FieldRules.Text.Ascii
/-!
# Percent encoding

Bytes as `%` and two digits of base sixteen.
-/

namespace FieldRules.Percent

open FieldRules.Text

/-- The bytes of text with its escapes resolved. A `%` without two digits stands for itself. -/
def decode : List Char → List UInt8
  | '%' :: a :: b :: rest =>
    if isHexDigit a && isHexDigit b then UInt8.ofNat (16 * hexValue a + hexValue b) :: decode rest
    else 0x25 :: decode (a :: b :: rest)
  | c :: rest => String.utf8EncodeChar c ++ decode rest
  | [] => []

/-- The escape of a byte. -/
def escape (b : UInt8) : List Char :=
  ['%', (Nat.digitChar (b.toNat / 16)).toUpper, (Nat.digitChar (b.toNat % 16)).toUpper]

/-- Escapes the controls, all that is not ASCII, and the characters of a set. -/
def encode (set : List Char) (cs : List Char) : List Char :=
  cs.flatMap fun c =>
    if c.toNat < 0x20 || c.toNat > 0x7E || set.contains c then
      (String.utf8EncodeChar c).flatMap escape
    else [c]

end FieldRules.Percent
