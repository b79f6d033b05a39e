import FieldRules.Unicode.Case
import FieldRules.Unicode.Word
/-!
# Case of whole texts

The full case maps on a text. Only the small sigma looks at its neighbours: it takes its final form
at the end of a word.
-/

namespace FieldRules.Text

open FieldRules.Unicode

/-- Past the characters that case ignores, does a cased character come next? -/
def meetsCased (cs : List Char) : Bool :=
  match cs.dropWhile isCaseIgnorable with
  | c :: _ => isCased c
  | [] => false

/-- The small form of the characters, given those before them in reverse. -/
def lowerChars (before : List Char) : List Char → List Char
  | [] => []
  | c :: cs =>
    let small :=
      if c.toNat == 0x3A3 then
        [Char.ofNat (if meetsCased before && !meetsCased cs then 0x3C2 else 0x3C3)]
      else toLower c
    small ++ lowerChars (c :: before) cs

/-- The small form of a text. -/
def lower (s : String) : String := String.ofList (lowerChars [] s.toList)

/-- The capital form of a text. -/
def upper (s : String) : String := String.ofList (s.toList.flatMap toUpper)

/-- The text with its first character in capital form. -/
def capitalized (s : String) : String :=
  match s.toList with
  | [] => ""
  | c :: cs => String.ofList (toUpper c ++ cs)

end FieldRules.Text
