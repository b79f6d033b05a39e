import FieldRules.Text.Ascii
import FieldRules.Text.Pieces
/-!
# Email addresses

A local part of atoms with points between, an `@`, and a host name of at least two labels whose last one is
of letters.
-/

namespace FieldRules.Email

open FieldRules.Text

/-- The greatest length of an address, in bytes. -/
def maxLength : Nat := 254

/-- A character of an atom: a letter, a digit, or one of nineteen signs. -/
def isAtomChar (c : Char) : Bool :=
  isAsciiLetter c || isAsciiDigit c || "!#$%&'*+/=?^_`\x7b|\x7d~-".toList.contains c

def isAtom (cs : List Char) : Bool := !cs.isEmpty && cs.all isAtomChar

def isLocalPart (cs : List Char) : Bool := (piecesBy (· == '.') cs).all isAtom

/-- A letter or a digit. -/
def isAlnum (c : Char) : Bool := isAsciiLetter c || isAsciiDigit c

/-- A label of a host name: at most 63 letters, digits and inner hyphens. -/
def isLabel (cs : List Char) : Bool :=
  1 ≤ cs.length && cs.length ≤ 63 && cs.all (fun c => isAlnum c || c == '-') &&
    cs.head?.any isAlnum && cs.getLast?.any isAlnum

/-- The last label: letters only, at least two. -/
def isTopLabel (cs : List Char) : Bool := 2 ≤ cs.length && cs.length ≤ 63 && cs.all isAsciiLetter

/-- Labels, at least one, and then a last label of letters. -/
def areLabels : List (List Char) → Bool
  | [] => false
  | [_] => false
  | [first, top] => isLabel first && isTopLabel top
  | first :: rest => isLabel first && areLabels rest

/-- A host name that can receive mail. -/
def isDomain (cs : List Char) : Bool := areLabels (piecesBy (· == '.') cs)

/-- The local part and the domain of an address. -/
def parts? (s : String) : Option (List Char × List Char) :=
  (cutAt (· == '@') s.toList).filter fun (name, domain) => isLocalPart name && isDomain domain

def isEmail (s : String) : Bool := s.utf8ByteSize ≤ maxLength && (parts? s).isSome

end FieldRules.Email
