import FieldRules.Json.Basic
import FieldRules.Text.Pieces
/-!
# Writing JSON

The compact form: no blanks, entries in order, and the escapes that JSON requires and no others.
-/

namespace FieldRules

/-- Numbers in documents: positional from 10^-5 below 10^16, always with a point or an exponent, the even
one of two decimals. -/
def Json.floatStyle : Binary64.Style :=
  { tie := .even, positional := fun e => -5 ≤ e && e ≤ 15, keepPoint := true }

/-- A binary64 number in a document; what is not finite has no number and is null. -/
def Json.floatText : Binary64 → String
  | .finite s m q => Binary64.finiteText Json.floatStyle s m q
  | _ => "null"

def Json.Number.text : Json.Number → String
  | .whole n => Text.showInt n
  | .float x => Json.floatText x

namespace Json

/-- The digit of base sixteen with a value below sixteen, in small letters. -/
def hexDigit (n : Nat) : Char := (Nat.digitChar n).toLower

/-- A character inside quotes. -/
def quotedChar (c : Char) : List Char :=
  if c = '\x22' then ['\\', '\x22']
  else if c = '\\' then ['\\', '\\']
  else if c = '\x08' then ['\\', 'b']
  else if c = '\x0C' then ['\\', 'f']
  else if c = '\n' then ['\\', 'n']
  else if c = '\r' then ['\\', 'r']
  else if c = '\t' then ['\\', 't']
  else if c.toNat < 0x20 then ['\\', 'u', '0', '0', hexDigit (c.toNat / 16), hexDigit (c.toNat % 16)]
  else [c]

/-- A text in quotes. -/
def quoted (s : String) : String :=
  String.ofList ('\x22' :: s.toList.flatMap quotedChar ++ ['\x22'])

mutual

/-- The compact text of a value. -/
def text : Json → String
  | .null => "null"
  | .bool b => if b then "true" else "false"
  | .number n => n.text
  | .string s => quoted s
  | .array items => "[" ++ Text.join "," (itemTexts items) ++ "]"
  | .object entries => "\x7b" ++ Text.join "," (entryTexts entries) ++ "\x7d"
termination_by structural v => v

def itemTexts : List Json → List String
  | [] => []
  | v :: rest => text v :: itemTexts rest
termination_by structural vs => vs

def entryTexts : List (String × Json) → List String
  | [] => []
  | (k, v) :: rest => (quoted k ++ ":" ++ text v) :: entryTexts rest
termination_by structural es => es

end

end Json

end FieldRules
