import FieldRules.Json.Parser
/-!
# Passing over JSON

Values that nobody asks for are passed over. Their form must be right, but numbers may be of any size, texts
may name half a pair of surrogates, and the nesting has no limit.
-/

namespace FieldRules.Json

open FieldRules.Text

/-- What follows a text, after its opening quote. -/
def skipString? : (fuel : Nat) → List Char → Option (List Char)
  | 0, _ => none
  | _ + 1, [] => none
  | fuel + 1, c :: cs =>
    if c = '\x22' then some cs
    else if c = '\\' then
      match cs with
      | 'u' :: cs => (hex4? cs).bind fun (_, cs) => skipString? fuel cs
      | d :: cs =>
        if ['\x22', '\\', '/', 'b', 'f', 'n', 'r', 't'].contains d then skipString? fuel cs else none
      | [] => none
    else if c.toNat < 0x20 then none
    else skipString? fuel cs

/-- What follows at least one digit. -/
def skipDigits? (cs : List Char) : Option (List Char) :=
  if cs.head?.any isAsciiDigit then some (cs.dropWhile isAsciiDigit) else none

/-- What follows the exponent of a number, if there is one. -/
def skipExponent? : List Char → Option (List Char)
  | c :: cs =>
    if c == 'e' || c == 'E' then
      match cs with
      | '+' :: cs => skipDigits? cs
      | '-' :: cs => skipDigits? cs
      | cs => skipDigits? cs
    else some (c :: cs)
  | [] => some []

/-- What follows a number without its sign. -/
def skipUnsigned? (cs : List Char) : Option (List Char) := do
  let rest ← match cs with
    | '0' :: rest => if rest.head?.any isAsciiDigit then none else some rest
    | cs => skipDigits? cs
  match rest with
  | '.' :: rest => skipExponent? (← skipDigits? rest)
  | rest => skipExponent? rest

def skipNumber? : List Char → Option (List Char)
  | '-' :: cs => skipUnsigned? cs
  | cs => skipUnsigned? cs

mutual

/-- What follows a value. Each step takes a character, so the length of the text is fuel enough. -/
def skipValue? : (fuel : Nat) → List Char → Option (List Char)
  | 0, _ => none
  | fuel + 1, cs =>
    match skipGap cs with
    | 'n' :: 'u' :: 'l' :: 'l' :: rest => some rest
    | 't' :: 'r' :: 'u' :: 'e' :: rest => some rest
    | 'f' :: 'a' :: 'l' :: 's' :: 'e' :: rest => some rest
    | '\x22' :: rest => skipString? (rest.length + 1) rest
    | '[' :: rest =>
      match skipGap rest with
      | ']' :: rest => some rest
      | rest => skipItems? fuel rest
    | '\x7b' :: rest =>
      match skipGap rest with
      | '\x7d' :: rest => some rest
      | rest => skipEntries? fuel rest
    | cs => skipNumber? cs

def skipItems? : (fuel : Nat) → List Char → Option (List Char)
  | 0, _ => none
  | fuel + 1, cs =>
    (skipValue? fuel cs).bind fun rest =>
      match skipGap rest with
      | ']' :: rest => some rest
      | ',' :: rest => skipItems? fuel rest
      | _ => none

def skipEntries? : (fuel : Nat) → List Char → Option (List Char)
  | 0, _ => none
  | fuel + 1, cs =>
    match skipGap cs with
    | '\x22' :: rest =>
      (skipString? (rest.length + 1) rest).bind fun rest =>
        match skipGap rest with
        | ':' :: rest =>
          (skipValue? fuel rest).bind fun rest =>
            match skipGap rest with
            | '\x7d' :: rest => some rest
            | ',' :: rest => skipEntries? fuel rest
            | _ => none
        | _ => none
    | _ => none

end

end FieldRules.Json
