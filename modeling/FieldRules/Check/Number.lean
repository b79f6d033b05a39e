import FieldRules.Check.Basic
/-!
# Tests of numbers and booleans

What counts as a number is decided on the text; its value is the nearest binary64 number. The modifier
`only` draws a number out of any text that has a digit.
-/

namespace FieldRules

open FieldRules.Text FieldRules.Unicode

/-! ## Reading -/

/-- Yes or no, in any of four spellings and any case. -/
def parseBool (s : String) : Option Bool :=
  let word := asciiLower (trim s)
  if ["true", "1", "yes", "on"].contains word then some true
  else if ["false", "0", "no", "off"].contains word then some false
  else none

/-- A lone comma in a text without a point is its decimal point. -/
def normalizeDecimal (s : String) : String :=
  let cs := trimChars s.toList
  if !cs.contains '.' && cs.count ',' == 1 then
    String.ofList (cs.map fun c => if c == ',' then '.' else c)
  else String.ofList cs

/-- The characters after a sign. -/
def dropSign : List Char → List Char
  | '+' :: cs => cs
  | '-' :: cs => cs
  | cs => cs

/-- Nothing, or `e` and a signed whole number. -/
def isExponent : List Char → Bool
  | [] => true
  | c :: cs =>
    (c == 'e' || c == 'E') && !(dropSign cs).isEmpty && (dropSign cs).all decimalDigit.has

/-- Is a text a plain number: a sign, digits with at most one point, an exponent? Digits of every script
count. -/
def isNumeric (s : String) : Bool :=
  let cs := dropSign s.toList
  let whole := cs.takeWhile decimalDigit.has
  match cs.dropWhile decimalDigit.has with
  | '.' :: rest =>
    (!whole.isEmpty || rest.head?.any decimalDigit.has) &&
      isExponent (rest.dropWhile decimalDigit.has)
  | rest => !whole.isEmpty && isExponent rest

/-! ## Drawing a number out of a text -/

/-- What has been drawn out so far, last character first. -/
structure Draft where
  out : List Char := []
  seenDigit : Bool := false
  seenPoint : Bool := false
  seenExponent : Bool := false

namespace Draft

/-- Takes a character or passes over it: digits; a sign at the very start or right after `e`; the first
point or comma before an exponent, as a point; the first `e` after a digit. -/
def step (isFirst : Bool) (d : Draft) (c : Char) : Draft :=
  if isAsciiDigit c then { d with out := c :: d.out, seenDigit := true }
  else if c == '+' || c == '-' then
    if isFirst || d.out.head? == some 'e' then { d with out := c :: d.out } else d
  else if c == '.' || c == ',' then
    if d.seenPoint || d.seenExponent then d else { d with out := '.' :: d.out, seenPoint := true }
  else if c == 'e' || c == 'E' then
    if d.seenDigit && !d.seenExponent then { d with out := 'e' :: d.out, seenExponent := true } else d
  else d

end Draft

/-- The number drawn out of a text, less a point, `e` or sign at its end; none without a digit. -/
def extractNumber (s : String) : Option String :=
  let d : Draft := match s.toList with
    | [] => {}
    | c :: cs => cs.foldl (Draft.step false) (Draft.step true {} c)
  if !d.seenDigit then none else
  let cs := (d.out.dropWhile fun c => c == '.' || c == 'e' || c == '+' || c == '-').reverse
  if cs.isEmpty then none else some (String.ofList cs)

/-! ## Values -/

/-- The text of a float, with at least one place after the point. -/
def floatText (x : Binary64) : String :=
  let text := x.toText
  if text.toList.contains '.' || !x.isFinite then text else text ++ ".0"

/-- The whole part of a number, if it fits 64 bits with sign. -/
def truncateToInt (numeric : String) : Except Fault Int :=
  match Binary64.read? numeric with
  | none => .error (.notNumeral numeric)
  | some x =>
    if !(x.isFinite && (Binary64.ofInt (-(bound63 : Int))).le x && !(Binary64.ofInt bound63).le x) then
      .error (.outsideIntegers numeric)
    else match x.truncate with
      | some n => .ok n
      | none => .error (.outsideIntegers numeric)

/-- The value of a number, if it is finite. -/
def parseFiniteFloat (numeric : String) : Except Fault Binary64 :=
  match Binary64.read? numeric with
  | none => .error (.notNumeral numeric)
  | some x => if x.isFinite then .ok x else .error (.outsideFloats numeric)

namespace Check

/-- The text of the number that a subject is, or that is drawn out of it. -/
def numeral (t : Token) (raw : String) : Except Fault String :=
  if t.has .only then
    match extractNumber raw with
    | some text => .ok text
    | none => .error .holdsNoNumber
  else
    let text := normalizeDecimal raw
    if isNumeric text then .ok text else .error .notNumber

def number (t : Token) (s : Subject) : Except Fault Outcome := do
  let some raw := s.text? | throw .notNumber
  let text ← numeral t raw
  if t.has .integer then return .replaced (showInt (← truncateToInt text))
  if t.has .float then return .replaced (floatText (← parseFiniteFloat text))
  return if t.has .only && text != raw then .replaced text else .accepted

def boolean : Subject → Except Fault Outcome
  | .bool _ => .ok .accepted
  | .text s => accept (parseBool s).isSome .notBoolean
  | .upload _ => .error .notBoolean

end Check

end FieldRules
