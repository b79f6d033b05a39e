import FieldRules.Json.Basic
/-!
# Reading JSON

One value, blanks around it, and nothing else. A text is refused for a syntax error, a lone half of a
surrogate pair, a number that no binary64 number is near, or more than 127 nested arrays and objects.

Numbers with a fraction or an exponent are read in two roundings: the leading digits that fit 64 bits
are rounded to a binary64 number, which is then scaled by powers of ten.
-/

namespace FieldRules.Json

open FieldRules.Text

/-- The blanks of JSON: space, tab, line feed, carriage return. -/
def isGap (c : Char) : Bool := c == ' ' || c == '\t' || c == '\n' || c == '\r'

def skipGap (cs : List Char) : List Char := cs.dropWhile isGap

/-! ## Numbers -/

/-- Reads on digits into `n` while the result stays below 2^64; also says how many were read. -/
def takeDigits (n count : Nat) : List Char → Nat × Nat × List Char
  | [] => (n, count, [])
  | c :: cs =>
    let m := 10 * n + (c.toNat - '0'.toNat)
    if isAsciiDigit c && m < bound64 then takeDigits m (count + 1) cs else (n, count, c :: cs)

/-- The number 10^`k`, rounded. -/
def powerOfTen (k : Nat) : Binary64 := Binary64.ofRatio false (Binary64.tenTo k) 1

/-- Divides by 10^308 until the exponent is within reach of one division, or nothing is left. -/
def scaleDown (x : Binary64) (k : Nat) : (steps : Nat) → Binary64
  | 0 => x
  | steps + 1 =>
    if k ≤ 308 then x.div (powerOfTen k)
    else if x = .zero false then x
    else scaleDown (x.div (powerOfTen 308)) (k - 308) steps

/-- The number ± significand · 10^exponent, or nothing if it overflows. After three divisions by 10^308
no number is left. -/
def scale? (negative : Bool) (significand : Nat) (exponent : Int) : Option Number :=
  let x := Binary64.ofRatio false significand 1
  let y? :=
    if exponent < 0 then some (scaleDown x (-exponent).toNat 4)
    else if exponent ≤ 308 then
      let y := x.mul (powerOfTen exponent.toNat)
      if y.isFinite then some y else none
    else if significand = 0 then some x
    else none
  y?.map fun y => .float (if negative then y.mul (Binary64.ofInt (-1)) else y)

/-- An exponent after `e`; one beyond 31 bits overflows, or leaves zero. -/
def exponent? (negative : Bool) (significand : Nat) (start : Int) (cs : List Char) :
    Option (Number × List Char) :=
  let (below, cs) := Decimal.sign cs
  let ds := cs.takeWhile isAsciiDigit
  let rest := cs.dropWhile isAsciiDigit
  let e : Int := digitsValue 0 ds
  if ds.isEmpty then none
  else if e ≥ bound31 then
    if significand ≠ 0 ∧ !below then none else some (.float (.zero negative), rest)
  else (scale? negative significand (if below then start - e else start + e)).map (·, rest)

/-- The exponent, if one follows, after a significand whose last digit stands for 10^`power`. -/
def ending? (negative : Bool) (significand : Nat) (power : Int) (cs : List Char) :
    Option (Number × List Char) :=
  match cs with
  | c :: cs' =>
    if c = 'e' ∨ c = 'E' then exponent? negative significand power cs'
    else (scale? negative significand power).map (·, cs)
  | [] => (scale? negative significand power).map (·, [])

/-- The digits after the point: at least one. Digits that no longer fit the significand are dropped. -/
def fraction? (negative : Bool) (significand : Nat) (power : Int) (cs : List Char) :
    Option (Number × List Char) :=
  if !(cs.head?.any isAsciiDigit) then none else
  let (n, count, rest) := takeDigits significand 0 cs
  ending? negative n (power - count) (rest.dropWhile isAsciiDigit)

/-- What follows the whole part: a point, an exponent, or nothing. `dropped` digits of the whole part
did not fit. A whole number stays exact if it fits 64 bits; minus zero does not. -/
def afterWhole? (negative : Bool) (n dropped : Nat) (cs : List Char) : Option (Number × List Char) :=
  match cs with
  | '.' :: cs' => fraction? negative n dropped cs'
  | _ =>
    let isExponent := cs.head?.any fun c => c == 'e' || c == 'E'
    if isExponent || dropped > 0 then ending? negative n dropped cs
    else if !negative then some (.whole n, cs)
    else if n = 0 ∨ n > bound63 then (scale? true n 0).map (·, cs)
    else some (.whole (-(n : Int)), cs)

/-- A number after its sign. A leading zero stands alone. -/
def unsigned? (negative : Bool) : List Char → Option (Number × List Char)
  | [] => none
  | c :: cs =>
    if c = '0' then
      if cs.head?.any isAsciiDigit then none else afterWhole? negative 0 0 cs
    else if isAsciiDigit c then
      let (n, _, rest) := takeDigits 0 0 (c :: cs)
      let more := rest.takeWhile isAsciiDigit
      afterWhole? negative n more.length (rest.dropWhile isAsciiDigit)
    else none

def number? : List Char → Option (Number × List Char)
  | '-' :: cs => unsigned? true cs
  | cs => unsigned? false cs

/-! ## Texts -/

/-- The value of four digits of base sixteen. -/
def hex4? : List Char → Option (Nat × List Char)
  | a :: b :: c :: d :: rest =>
    if isHexDigit a && isHexDigit b && isHexDigit c && isHexDigit d then
      some (((hexValue a * 16 + hexValue b) * 16 + hexValue c) * 16 + hexValue d, rest)
    else none
  | _ => none

/-- A character written by its code, after the `u`; a pair of surrogates is one character. -/
def unicodeEscape? (cs : List Char) : Option (Char × List Char) :=
  (hex4? cs).bind fun (n, rest) =>
    if 0xDC00 ≤ n && n ≤ 0xDFFF then none
    else if 0xD800 ≤ n && n ≤ 0xDBFF then
      match rest with
      | '\\' :: 'u' :: rest' =>
        (hex4? rest').bind fun (m, rest'') =>
          if 0xDC00 ≤ m && m ≤ 0xDFFF then
            some (Char.ofNat (0x10000 + (n - 0xD800) * 0x400 + (m - 0xDC00)), rest'')
          else none
      | _ => none
    else some (Char.ofNat n, rest)

/-- The character after a backslash. -/
def escape? : List Char → Option (Char × List Char)
  | '\x22' :: cs => some ('\x22', cs)
  | '\\' :: cs => some ('\\', cs)
  | '/' :: cs => some ('/', cs)
  | 'b' :: cs => some ('\x08', cs)
  | 'f' :: cs => some ('\x0C', cs)
  | 'n' :: cs => some ('\n', cs)
  | 'r' :: cs => some ('\r', cs)
  | 't' :: cs => some ('\t', cs)
  | 'u' :: cs => unicodeEscape? cs
  | _ => none

/-- The text up to the closing quote, collected in reverse. Each step takes a character. -/
def stringBody? (acc : List Char) : (fuel : Nat) → List Char → Option (String × List Char)
  | 0, _ => none
  | _ + 1, [] => none
  | fuel + 1, c :: cs =>
    if c = '\x22' then some (String.ofList acc.reverse, cs)
    else if c = '\\' then (escape? cs).bind fun (d, cs) => stringBody? (d :: acc) fuel cs
    else if c.toNat < 0x20 then none
    else stringBody? (c :: acc) fuel cs

/-- A text after its opening quote. -/
def string? (cs : List Char) : Option (String × List Char) := stringBody? [] (cs.length + 1) cs

/-! ## Values -/

mutual

/-- A value at the start of the text, with at most `depth` further arrays and objects inside. Each
step takes a character, so the length of the text is fuel enough. -/
def value? (depth : Nat) : (fuel : Nat) → List Char → Option (Json × List Char)
  | 0, _ => none
  | fuel + 1, cs =>
    match skipGap cs with
    | 'n' :: 'u' :: 'l' :: 'l' :: rest => some (.null, rest)
    | 't' :: 'r' :: 'u' :: 'e' :: rest => some (.bool true, rest)
    | 'f' :: 'a' :: 'l' :: 's' :: 'e' :: rest => some (.bool false, rest)
    | '\x22' :: rest => (string? rest).map fun (s, rest) => (.string s, rest)
    | '[' :: rest =>
      if depth = 0 then none else
      match skipGap rest with
      | ']' :: rest => some (.array [], rest)
      | rest => (items? (depth - 1) fuel rest).map fun (vs, rest) => (.array vs, rest)
    | '\x7b' :: rest =>
      if depth = 0 then none else
      match skipGap rest with
      | '\x7d' :: rest => some (.object [], rest)
      | rest =>
        (entries? (depth - 1) fuel rest).map fun (es, rest) => (.object (Keyed.ofList es), rest)
    | cs => (number? cs).map fun (n, rest) => (.number n, rest)

/-- The items of an array up to its bracket: at least one. -/
def items? (depth : Nat) : (fuel : Nat) → List Char → Option (List Json × List Char)
  | 0, _ => none
  | fuel + 1, cs =>
    (value? depth fuel cs).bind fun (v, rest) =>
      match skipGap rest with
      | ']' :: rest => some ([v], rest)
      | ',' :: rest => (items? depth fuel rest).map fun (vs, rest) => (v :: vs, rest)
      | _ => none

/-- The entries of an object up to its brace: at least one. -/
def entries? (depth : Nat) : (fuel : Nat) → List Char → Option (List (String × Json) × List Char)
  | 0, _ => none
  | fuel + 1, cs =>
    match skipGap cs with
    | '\x22' :: rest =>
      (string? rest).bind fun (k, rest) =>
        match skipGap rest with
        | ':' :: rest =>
          (value? depth fuel rest).bind fun (v, rest) =>
            match skipGap rest with
            | '\x7d' :: rest => some ([(k, v)], rest)
            | ',' :: rest => (entries? depth fuel rest).map fun (es, rest) => ((k, v) :: es, rest)
            | _ => none
        | _ => none
    | _ => none

end

/-- The deepest nesting that is read. -/
def maxDepth : Nat := 127

/-- The value that a document holds. -/
def parse? (s : String) : Option Json :=
  let cs := s.toList
  (value? maxDepth (3 * cs.length + 3) cs).bind fun (v, rest) =>
    if (skipGap rest).isEmpty then some v else none

end FieldRules.Json
