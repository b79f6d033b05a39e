/-!
# ASCII classes and case

The classes and the case maps that know the letters `A`-`Z` and `a`-`z` only.
-/

namespace FieldRules.Text

/-- A digit `0`-`9`. -/
def isAsciiDigit (c : Char) : Bool := '0' ≤ c && c ≤ '9'

/-- A letter `A`-`Z` or `a`-`z`. -/
def isAsciiLetter (c : Char) : Bool := ('a' ≤ c && c ≤ 'z') || ('A' ≤ c && c ≤ 'Z')

/-- A digit in base sixteen, in either case. -/
def isHexDigit (c : Char) : Bool :=
  isAsciiDigit c || ('a' ≤ c && c ≤ 'f') || ('A' ≤ c && c ≤ 'F')

/-- The value of a digit of base sixteen; zero for any other character. -/
def hexValue (c : Char) : Nat :=
  if isAsciiDigit c then c.toNat - '0'.toNat
  else if 'a' ≤ c && c ≤ 'f' then c.toNat - 'a'.toNat + 10
  else if 'A' ≤ c && c ≤ 'F' then c.toNat - 'A'.toNat + 10
  else 0

/-- The small form of the letters `A`-`Z`; all else stays. -/
def asciiLower (s : String) : String := String.ofList (s.toList.map Char.toLower)

/-- The capital form of the letters `a`-`z`; all else stays. -/
def asciiUpper (s : String) : String := String.ofList (s.toList.map Char.toUpper)

@[simp] theorem toList_asciiLower (s : String) : (asciiLower s).toList = s.toList.map Char.toLower := by
  simp [asciiLower]

@[simp] theorem toList_asciiUpper (s : String) : (asciiUpper s).toList = s.toList.map Char.toUpper := by
  simp [asciiUpper]

end FieldRules.Text
