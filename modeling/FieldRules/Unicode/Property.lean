import FieldRules.Text.Blank
import FieldRules.Unicode.Named
import FieldRules.Unicode.Word
/-!
# Classes of characters by property

What a pattern may write between the braces of a property class: a general category, a script, a
property with two values, or one of the first two as `name=value`. Names are compared without regard to
case, blanks, hyphens, underscores and a leading `is`.
-/

namespace FieldRules.Unicode

open FieldRules.Text

/-- A set of characters. -/
abbrev CharSet := Char → Bool

namespace CharSet

def complement (s : CharSet) : CharSet := fun c => !s c

def union (s t : CharSet) : CharSet := fun c => s c || t c

end CharSet

/-- A property name as it is compared. The name `isc` keeps its beginning: it is the category C. -/
def comparableName (s : String) : String :=
  let cs := s.toList
  let startsWithIs := (cs.take 2).map Char.toLower == ['i', 's']
  let body := if startsWithIs then cs.drop 2 else cs
  let kept := body.filter fun c => c.toNat < 0x80 && c != ' ' && c != '_' && c != '-'
  let name := String.ofList (kept.map Char.toLower)
  if startsWithIs && name == "c" then "isc" else name

/-! ## General categories -/

def isPunctuation : CharSet := fun c =>
  connector.has c || dash.has c || openingBracket.has c || closingBracket.has c ||
    initialQuote.has c || finalQuote.has c || otherPunctuation.has c

def isSymbol : CharSet := fun c =>
  mathSymbol.has c || currencySymbol.has c || modifierSymbol.has c || otherSymbol.has c

def isSeparator : CharSet := fun c =>
  spaceSeparator.has c || c.toNat == 0x2028 || c.toNat == 0x2029

/-- Every character that Unicode has given a category. -/
def isAssigned : CharSet := fun c =>
  letter.has c || isMark c || isNumeral c || isPunctuation c || isSymbol c || isSeparator c ||
    control.has c || formatting.has c || privateUse.has c

/-- Letters that are no cased letters and modify no other. -/
def isOtherLetter : CharSet := fun c =>
  letter.has c &&
    !(uppercaseLetter.has c || lowercaseLetter.has c || titlecaseLetter.has c || modifierLetter.has c)

/-- The characters of a general category, by its short or its long name. -/
def category? : String → Option CharSet
  | "any" => some fun _ => true
  | "assigned" => some isAssigned
  | "ascii" => some fun c => c.toNat < 0x80
  | "l" | "letter" => some letter.has
  | "lc" | "casedletter" =>
    some fun c => uppercaseLetter.has c || lowercaseLetter.has c || titlecaseLetter.has c
  | "lu" | "uppercaseletter" => some uppercaseLetter.has
  | "ll" | "lowercaseletter" => some lowercaseLetter.has
  | "lt" | "titlecaseletter" => some titlecaseLetter.has
  | "lm" | "modifierletter" => some modifierLetter.has
  | "lo" | "otherletter" => some isOtherLetter
  | "m" | "mark" | "combiningmark" => some isMark
  | "mn" | "nonspacingmark" => some nonspacingMark.has
  | "mc" | "spacingmark" => some spacingMark.has
  | "me" | "enclosingmark" => some enclosingMark.has
  | "n" | "number" => some isNumeral
  | "nd" | "decimalnumber" | "digit" => some decimalDigit.has
  | "nl" | "letternumber" => some letterNumeral.has
  | "no" | "othernumber" => some otherNumeral.has
  | "p" | "punctuation" | "punct" => some isPunctuation
  | "pc" | "connectorpunctuation" => some connector.has
  | "pd" | "dashpunctuation" => some dash.has
  | "ps" | "openpunctuation" => some openingBracket.has
  | "pe" | "closepunctuation" => some closingBracket.has
  | "pi" | "initialpunctuation" => some initialQuote.has
  | "pf" | "finalpunctuation" => some finalQuote.has
  | "po" | "otherpunctuation" => some otherPunctuation.has
  | "s" | "symbol" => some isSymbol
  | "sm" | "mathsymbol" => some mathSymbol.has
  | "sc" | "currencysymbol" => some currencySymbol.has
  | "sk" | "modifiersymbol" => some modifierSymbol.has
  | "so" | "othersymbol" => some otherSymbol.has
  | "z" | "separator" => some isSeparator
  | "zs" | "spaceseparator" => some spaceSeparator.has
  | "zl" | "lineseparator" => some fun c => c.toNat == 0x2028
  | "zp" | "paragraphseparator" => some fun c => c.toNat == 0x2029
  | "isc" | "c" | "other" => some fun c =>
      control.has c || formatting.has c || privateUse.has c || !isAssigned c
  | "cc" | "control" | "cntrl" => some control.has
  | "cf" | "format" => some formatting.has
  | "co" | "privateuse" => some privateUse.has
  | "cn" | "unassigned" => some fun c => !isAssigned c
  | "cs" | "surrogate" => some fun _ => false
  | _ => none

/-! ## Properties that follow from the categories -/

/-- Marks of width that go with the character before them, and the joiner and tags that do. -/
def otherExtending : Ranges := [
  (0x9BE, 0x9BE), (0x9D7, 0x9D7), (0xB3E, 0xB3E), (0xB57, 0xB57), (0xBBE, 0xBBE), (0xBD7, 0xBD7),
  (0xCC0, 0xCC0), (0xCC2, 0xCC2), (0xCC7, 0xCC8), (0xCCA, 0xCCB), (0xCD5, 0xCD6), (0xD3E, 0xD3E),
  (0xD57, 0xD57), (0xDCF, 0xDCF), (0xDDF, 0xDDF), (0x1715, 0x1715), (0x1734, 0x1734),
  (0x1B35, 0x1B35), (0x1B3B, 0x1B3B), (0x1B3D, 0x1B3D), (0x1B43, 0x1B44), (0x1BAA, 0x1BAA),
  (0x1BF2, 0x1BF3), (0x200C, 0x200C), (0x302E, 0x302F), (0xA953, 0xA953), (0xA9C0, 0xA9C0),
  (0xFF9E, 0xFF9F), (0x111C0, 0x111C0), (0x11235, 0x11235), (0x1133E, 0x1133E), (0x1134D, 0x1134D),
  (0x11357, 0x11357), (0x113B8, 0x113B8), (0x113C2, 0x113C2), (0x113C5, 0x113C5),
  (0x113C7, 0x113C9), (0x113CF, 0x113CF), (0x114B0, 0x114B0), (0x114BD, 0x114BD),
  (0x115AF, 0x115AF), (0x116B6, 0x116B6), (0x11930, 0x11930), (0x1193D, 0x1193D),
  (0x11F41, 0x11F41), (0x16FF0, 0x16FF1), (0x1D165, 0x1D166), (0x1D16D, 0x1D172),
  (0xE0020, 0xE007F)]

def extendsGrapheme : CharSet := fun c =>
  nonspacingMark.has c || enclosingMark.has c || otherExtending.has c

def isGraphemeBase : CharSet := fun c =>
  isAssigned c && !(control.has c || formatting.has c || privateUse.has c || extendsGrapheme c ||
    c.toNat == 0x2028 || c.toNat == 0x2029)

def otherStart : Ranges := [(0x1885, 0x1886), (0x2118, 0x2118), (0x212E, 0x212E), (0x309B, 0x309C)]

def startsIdentifier : CharSet := fun c =>
  (letter.has c || letterNumeral.has c || otherStart.has c) && c.toNat != 0x2E2F

def otherContinue : Ranges := [(0xB7, 0xB7), (0x387, 0x387), (0x1369, 0x1371), (0x19DA, 0x19DA),
  (0x200C, 0x200D), (0x30FB, 0x30FB), (0xFF65, 0xFF65)]

def continuesIdentifier : CharSet := fun c =>
  startsIdentifier c || nonspacingMark.has c || spacingMark.has c || decimalDigit.has c ||
    connector.has c || otherContinue.has c

/-- Characters whose compatibility forms are no identifiers. -/
def unstableContinue : Strides := [(0x37A, 0x37A, 1), (0x309B, 0x309C, 1), (0xFC5E, 0xFC63, 1),
  (0xFDFA, 0xFDFB, 1), (0xFE70, 0xFE7E, 2)]

/-- Characters whose compatibility forms start no identifier. -/
def unstableStart : Strides :=
  [(0xE33, 0xE33, 1), (0xEB3, 0xEB3, 1), (0xFF9E, 0xFF9F, 1)] ++ unstableContinue

/-- The characters of a property with two values. -/
def binary? (name : String) : Option CharSet :=
  match name with
  | "alpha" | "alphabetic" => some isAlphabetic
  | "ci" | "caseignorable" => some isCaseIgnorable
  | "cased" => some isCased
  | "lower" | "lowercase" => some isLowercase
  | "upper" | "uppercase" => some isUppercase
  | "wspace" | "whitespace" | "space" => some isBlank
  | "joinc" | "joincontrol" => some isJoiner
  | "grext" | "graphemeextend" => some extendsGrapheme
  | "grbase" | "graphemebase" => some isGraphemeBase
  | "ids" | "idstart" => some startsIdentifier
  | "idc" | "idcontinue" => some continuesIdentifier
  | "xids" | "xidstart" => some fun c => startsIdentifier c && !unstableStart.has c
  | "xidc" | "xidcontinue" => some fun c => continuesIdentifier c && !unstableContinue.has c
  | _ => (lookup? properties name).map Strides.has

def script? (name : String) : Option CharSet := (lookup? scripts name).map Strides.has

/-! ## Names in patterns -/

/-- The class that a name alone means: a property, else a category, else a script. The short names of
the categories Cf, Sc and LC are also short names of properties without a class. -/
def named? (s : String) : Option CharSet :=
  let name := comparableName s
  (binary? name).or ((category? name).or (script? name))

/-- The class that a name and a value mean. -/
def valued? (property value : String) : Option CharSet :=
  let value := comparableName value
  match comparableName property with
  | "gc" | "generalcategory" => category? value
  | "sc" | "script" => script? value
  | _ => none

end FieldRules.Unicode
