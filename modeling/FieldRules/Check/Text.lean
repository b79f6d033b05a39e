import FieldRules.Check.Basic
/-!
# Tests of texts

Character classes, lengths, words, passwords and patterns. A length counts characters; a word is a run of
letters.
-/

namespace FieldRules

open FieldRules.Text FieldRules.Unicode

/-! ## Counting -/

/-- A count that a rule gives: a whole number of 64 bits. -/
def parseCount (test : String) (raw : String) : Except Fault Nat :=
  match nat64? (trim raw) with
  | some n => .ok n
  | none => .error (.notCount test raw)

/-- Exactly `n` characters: the text cut, or filled up with spaces. -/
def cutToLength (s : String) (n : Nat) : String :=
  let cs := s.toList.take n
  String.ofList (cs ++ List.replicate (n - cs.length) ' ')

/-- The runs of letters, where `inWord` says whether one is under way. -/
def countWords (inWord : Bool) : List Char → Nat
  | [] => 0
  | c :: cs =>
    if letter.has c then (if inWord then 0 else 1) + countWords true cs else countWords false cs

/-- How many words a text has. -/
def wordCount (s : String) : Nat := countWords false s.toList

namespace Check

/-! ## Character classes -/

/-- Keeps the characters of a class; a text that loses none is accepted. -/
def keepOnly (keep : Char → Bool) (s : String) : Outcome :=
  let kept := String.ofList (s.toList.filter keep)
  if kept = s then .accepted else .replaced kept

/-- Letters and white space, at least one character. -/
def isAlphaText (s : String) : Bool :=
  !s.toList.isEmpty && s.toList.all fun c => letter.has c || isBlank c

/-- Letters, decimal digits and white space, at least one character. -/
def isAlphaNumberText (s : String) : Bool :=
  !s.toList.isEmpty && s.toList.all fun c => letter.has c || decimalDigit.has c || isBlank c

def alpha (t : Token) (s : Subject) : Except Fault Outcome := do
  let text ← s.expectText .alpha
  if t.has .only then return keepOnly (fun c => isAlphabetic c || isBlank c) text
  accept (isAlphaText text) .notLetters

def alphaNumber (t : Token) (s : Subject) : Except Fault Outcome := do
  let text ← s.expectText .alphaNumber
  if t.has .only then
    return keepOnly (fun c => isAlphabetic c || isNumeral c || isBlank c) text
  accept (isAlphaNumberText text) .notLettersOrDigits

def string (s : Subject) : Except Fault Outcome := accept s.upload?.isNone .notText

/-! ## Passwords -/

/-- At least eight characters, and among them a capital, a small letter and an ASCII digit. -/
def meetsPolicy (s : String) : Bool :=
  8 ≤ s.length && s.toList.any isUppercase && s.toList.any isLowercase && s.toList.any isAsciiDigit

def password (c : Collaborators) (t : Token) (s : Subject) : Except Fault Outcome := do
  let text ← s.expectText .password
  if !meetsPolicy text then throw .weakPassword
  if !t.has .hash then return .accepted
  match c.hashPassword text with
  | .ok hash => return .replaced hash
  | .error why => throw (.unhashed why)

/-! ## Patterns -/

/-- The texts that hold a match of a pattern in a rule. -/
def compilePattern (c : Collaborators) (raw : String) : Except Fault (String → Bool) :=
  (Pattern.compile c.dialect raw).mapError .malformedPattern

def regex (c : Collaborators) (t : Token) (s : Subject) : Except Fault Outcome := do
  let isMatch ← compilePattern c (← t.joinedValue)
  let text ← s.expectText .regex
  accept (isMatch text) .noMatch

/-! ## Lengths and words -/

/-- The least and the greatest length that a token allows. -/
def lengthBounds (t : Token) : Except Fault (Nat × Nat) :=
  match t.values with
  | [] => .error (.missingValue Test.length.name)
  | [exact] => do
    let n ← parseCount Test.length.name exact
    return (n, n)
  | low :: high :: _ => do
    let a ← parseCount Test.length.name low
    let b ← parseCount Test.length.name high
    return (min a b, max a b)

def length (t : Token) (s : Subject) : Except Fault Outcome := do
  let (low, high) ← lengthBounds t
  let text ← s.expectText .length
  if low ≤ text.length ∧ text.length ≤ high then return .accepted
  if t.has .cut then return .replaced (cutToLength text (if text.length < low then low else high))
  throw (.wrongLength low high)

def maxLength (t : Token) (s : Subject) : Except Fault Outcome := do
  let limit ← parseCount Test.maxLength.name (← t.firstValue)
  let text ← s.expectText .maxLength
  if text.length ≤ limit then return .accepted
  if t.has .cut then return .replaced (cutToLength text limit)
  throw (.tooLong limit)

def minLength (t : Token) (s : Subject) : Except Fault Outcome := do
  let limit ← parseCount Test.minLength.name (← t.firstValue)
  let text ← s.expectText .minLength
  if t.has .cut then
    return if text.length = limit then .accepted else .replaced (cutToLength text limit)
  accept (limit ≤ text.length) (.tooShort limit)

def maxWords (t : Token) (s : Subject) : Except Fault Outcome := do
  let limit ← parseCount Test.maxWords.name (← t.firstValue)
  let text ← s.expectText .maxWords
  accept (wordCount text ≤ limit) (.tooManyWords limit)

def minWords (t : Token) (s : Subject) : Except Fault Outcome := do
  let limit ← parseCount Test.minWords.name (← t.firstValue)
  let text ← s.expectText .minWords
  accept (limit ≤ wordCount text) (.tooFewWords limit)

end Check

end FieldRules
