import FieldRules.Pattern.Mode
/-!
# Escapes

What a backslash in a pattern begins: a character, a class, or a condition on a place.
-/

namespace FieldRules.Pattern

open FieldRules.Text FieldRules.Unicode

/-- What an escape stands for. -/
inductive Atom where
  | char (c : Char)
  | set (s : CharSet)
  | look (l : Look)

/-- The characters with a meaning in patterns. -/
def isMeta (c : Char) : Bool := "\\.+*?()|[]\x7b\x7d^$#&-~".toList.contains c

/-- The characters that may stand after a backslash for themselves: ASCII but for letters, digits and
angle brackets. -/
def isEscapable (c : Char) : Bool :=
  isMeta c || (c.toNat < 0x80 && !isAsciiDigit c && !isAsciiLetter c && c != '<' && c != '>')

/-- The character with a code written in base sixteen. -/
def charOfHex? (ds : List Char) : Except Flaw Char :=
  let n := ds.foldl (fun n c => 16 * n + hexValue c) 0
  if ds.isEmpty || n ≥ 0x110000 || (0xD800 ≤ n && n ≤ 0xDFFF) then .error .hexEscape
  else .ok (Char.ofNat n)

/-- Exactly `n` digits of base sixteen. -/
def hexDigits (m : Mode) (acc : List Char) : (n : Nat) → List Char → Except Flaw (Char × List Char)
  | 0, cs => (charOfHex? acc.reverse).map (·, cs)
  | n + 1, c :: cs =>
    if isHexDigit c then hexDigits m (c :: acc) n (m.skip cs) else .error .hexEscape
  | _ + 1, [] => .error .hexEscape

/-- Digits of base sixteen up to a closing brace. -/
def hexBraced (m : Mode) (acc : List Char) : (fuel : Nat) → List Char → Except Flaw (Char × List Char)
  | 0, _ => .error .hexEscape
  | fuel + 1, cs =>
    match m.skip cs with
    | '\x7d' :: cs => (charOfHex? acc.reverse).map (·, m.skip cs)
    | c :: cs => if isHexDigit c then hexBraced m (c :: acc) fuel cs else .error .hexEscape
    | [] => .error .hexEscape

/-- A character by its code, after `x`, `u` or `U`. -/
def hexEscape (m : Mode) (digits : Nat) (cs : List Char) : Except Flaw (Char × List Char) :=
  match m.skip cs with
  | '\x7b' :: cs => hexBraced m [] (cs.length + 1) cs
  | cs => hexDigits m [] digits cs

/-- The text up to a closing brace. -/
def braced (m : Mode) (acc : List Char) : (fuel : Nat) → List Char → Except Flaw (String × List Char)
  | 0, _ => .error .escape
  | fuel + 1, cs =>
    match m.skip cs with
    | '\x7d' :: cs => .ok (String.ofList acc.reverse, cs)
    | c :: cs => braced m (c :: acc) fuel cs
    | [] => .error .escape

/-- What stands before and after a mark of two characters. -/
def cutAtPair (a b : Char) : List Char → Option (List Char × List Char)
  | x :: y :: cs =>
    if x == a && y == b then some ([], cs)
    else (cutAtPair a b (y :: cs)).map fun (u, v) => (x :: u, v)
  | _ => none

/-- The class that the text between the braces of a property means, and whether it turns it round. -/
def propertyClass? (name : String) : Option (CharSet × Bool) :=
  match cutAtPair '!' '=' name.toList with
  | some (p, v) => (valued? (String.ofList p) (String.ofList v)).map (·, true)
  | none =>
    match (cutOnce ':' name).or (cutOnce '=' name) with
    | some (p, v) => (valued? p v).map (·, false)
    | none => (named? name).map (·, false)

/-- A class by property, after `p` or `P`. -/
def propertyEscape (m : Mode) (negated : Bool) (cs : List Char) : Except Flaw (Atom × List Char) := do
  let (name, rest) ← match m.skip cs with
    | [] => .error .escape
    | '\x7b' :: cs => braced m [] (cs.length + 1) cs
    | '\\' :: _ => .error .unknownClass
    | c :: cs => .ok (String.singleton c, m.skip cs)
  if !m.unicode then .error .partOfCharacter else
  match propertyClass? name with
  | none => .error .unknownClass
  | some (s, turned) => .ok (.set (m.classOf (negated != turned) s), rest)

/-- One of the classes `d`, `s` and `w`. -/
def namedClass (m : Mode) (negated : Bool) (s ascii : CharSet) (cs : List Char) :
    Except Flaw (Atom × List Char) := do
  let s := if m.unicode then s else ascii
  let s ← m.checkClass (if negated then s.complement else s)
  return (.set s, cs)

/-- The blanks of ASCII: tab, line feed, vertical tab, form feed, carriage return, space. -/
def isAsciiBlank (c : Char) : Bool := (0x09 ≤ c.toNat && c.toNat ≤ 0x0D) || c == ' '

/-- The letters and hyphens of a boundary's name, up to its brace. -/
def boundaryName (m : Mode) (acc : List Char) : (fuel : Nat) → List Char → Except Flaw (String × List Char)
  | 0, _ => .error .boundaryName
  | fuel + 1, c :: cs =>
    if c == '\x7d' then .ok (String.ofList acc.reverse, cs)
    else if isAsciiLetter c || c == '-' then boundaryName m (c :: acc) fuel (m.skip cs)
    else .error .boundaryName
  | _ + 1, [] => .error .boundaryName

/-- A word boundary, after `b`. A brace that begins a name makes it a boundary of one side; any other
brace is left to be read as a repetition. -/
def boundaryEscape (m : Mode) (cs : List Char) : Except Flaw (Atom × List Char) :=
  match cs with
  | '\x7b' :: cs' =>
    match m.skip cs' with
    | [] => .error .boundaryName
    | c :: rest =>
      if !(isAsciiLetter c || c == '-') then .ok (.look (.boundary m.words), cs) else do
        let (name, rest) ← boundaryName m [] (rest.length + 2) (c :: rest)
        match name with
        | "start" => .ok (.look (.wordStart m.words), rest)
        | "end" => .ok (.look (.wordEnd m.words), rest)
        | "start-half" => .ok (.look (.wordStartHalf m.words), rest)
        | "end-half" => .ok (.look (.wordEndHalf m.words), rest)
        | _ => .error .boundaryName
  | _ => .ok (.look (.boundary m.words), cs)

/-- The escape after a backslash. -/
def escape (m : Mode) : List Char → Except Flaw (Atom × List Char)
  | [] => .error .escape
  | c :: cs =>
    let literal (d : Char) : Except Flaw (Atom × List Char) := .ok (.char d, cs)
    if isAsciiDigit c then .error .backreference
    else if isEscapable c then literal c
    else match c with
      | 'x' => do
        let (d, cs) ← hexEscape m 2 cs
        return (.char (← m.checkChar d), cs)
      | 'u' => do
        let (d, cs) ← hexEscape m 4 cs
        return (.char (← m.checkChar d), cs)
      | 'U' => do
        let (d, cs) ← hexEscape m 8 cs
        return (.char (← m.checkChar d), cs)
      | 'p' => propertyEscape m false cs
      | 'P' => propertyEscape m true cs
      | 'd' => namedClass m false decimalDigit.has isAsciiDigit cs
      | 'D' => namedClass m true decimalDigit.has isAsciiDigit cs
      | 's' => namedClass m false isBlank isAsciiBlank cs
      | 'S' => namedClass m true isBlank isAsciiBlank cs
      | 'w' => namedClass m false isWord isAsciiWord cs
      | 'W' => namedClass m true isWord isAsciiWord cs
      | 'a' => literal '\x07'
      | 'f' => literal '\x0C'
      | 't' => literal '\t'
      | 'n' => literal '\n'
      | 'r' => literal '\r'
      | 'v' => literal '\x0B'
      | 'A' => .ok (.look .textStart, cs)
      | 'z' => .ok (.look .textEnd, cs)
      | 'b' => boundaryEscape m cs
      | 'B' => .ok (.look (.noBoundary m.words), cs)
      | '<' => .ok (.look (.wordStart m.words), cs)
      | '>' => .ok (.look (.wordEnd m.words), cs)
      | _ => .error .escape

end FieldRules.Pattern
