import FieldRules.Address.Ip
import FieldRules.Address.Percent
import FieldRules.Address.Punycode
import FieldRules.Text.Case
import FieldRules.Text.Utf8
import FieldRules.Unicode.Property
/-!
# Hosts of URLs

A host is a name or an address. A name in a URL of a well-known scheme is brought into its ASCII form, label
by label; a name whose last label is a number must be an address.
-/

namespace FieldRules

open FieldRules.Text

/-- The host of a URL. -/
inductive Host where
  | name (s : String)
  | v4 (n : Nat)
  | v6 (groups : List Nat)
  deriving DecidableEq, Repr

namespace Host

/-- The written form in a URL. -/
def text : Host → String
  | .name s => s
  | .v4 n => Ip.v4Text n
  | .v6 groups => "[" ++ Ip.v6Text groups ++ "]"

/-! ## Names in ASCII -/

/-- The characters that no host may hold. -/
def forbidden : List Char :=
  ['\x00', '\t', '\n', '\r', ' ', '#', '/', ':', '<', '>', '?', '@', '[', '\\', ']', '^', '|']

/-- The characters that no name of a well-known scheme may hold. -/
def isForbidden (c : Char) : Bool :=
  c.toNat < 0x20 || c == '%' || c.toNat == 0x7F || forbidden.contains c

/-- Characters that stand in names for nothing. -/
def isIgnored (c : Char) : Bool :=
  let n := c.toNat
  n == 0xAD || n == 0x34F || (0x180B ≤ n && n ≤ 0x180F && n != 0x180E) || n == 0x200B || n == 0x2060 ||
    n == 0x2064 || (0xFE00 ≤ n && n ≤ 0xFE0F) || n == 0xFEFF || (0x1BCA0 ≤ n && n ≤ 0x1BCA3) ||
    (0xE0100 ≤ n && n ≤ 0xE01EF)

/-- What a character of a name stands for: nothing, the ASCII form of a wide character, a point for an
ideographic full stop, or its small form. -/
def mapped (c : Char) : List Char :=
  let n := c.toNat
  if isIgnored c then []
  else if n == 0x3002 || n == 0xFF61 then ['.']
  else if 0xFF01 ≤ n && n ≤ 0xFF5E then [(Char.ofNat (n - 0xFEE0)).toLower]
  else if n == 0x1E9E then ['s', 's']
  else if n == 0x345 then [Char.ofNat 0x3B9]
  else Unicode.toLower c

/-- Characters that no name may hold although they are letters, marks or signs: those that stand for
something with a blank or a forbidden character in it, and some that show nothing. -/
def unfit : Unicode.Ranges := [
  (0xA8, 0xA8), (0xAF, 0xAF), (0xB4, 0xB4), (0xB8, 0xB8), (0x2D8, 0x2DD), (0x37A, 0x37A),
  (0x384, 0x385), (0x115F, 0x1160), (0x17B4, 0x17B5), (0x1806, 0x1806), (0x1FBD, 0x1FBD),
  (0x1FBF, 0x1FC1), (0x1FCD, 0x1FCF), (0x1FDD, 0x1FDF), (0x1FED, 0x1FEE), (0x1FFD, 0x1FFE),
  (0x2017, 0x2017), (0x2024, 0x2026), (0x203E, 0x203E), (0x2047, 0x2049), (0x2100, 0x2101),
  (0x2105, 0x2106), (0x2488, 0x249B), (0x2A74, 0x2A74), (0x2FF0, 0x2FFF), (0x309B, 0x309C),
  (0x3164, 0x3164), (0x31EF, 0x31EF), (0x33C2, 0x33C2), (0x33C7, 0x33C7), (0x33D8, 0x33D8),
  (0xFC5E, 0xFC63), (0xFDFA, 0xFDFB), (0xFE12, 0xFE13), (0xFE16, 0xFE16), (0xFE19, 0xFE19),
  (0xFE30, 0xFE30), (0xFE47, 0xFE4C), (0xFE52, 0xFE52), (0xFE55, 0xFE56), (0xFE5F, 0xFE5F),
  (0xFE64, 0xFE65), (0xFE68, 0xFE68), (0xFE6A, 0xFE6B), (0xFE70, 0xFE70), (0xFE72, 0xFE72),
  (0xFE74, 0xFE74), (0xFE76, 0xFE76), (0xFE78, 0xFE78), (0xFE7A, 0xFE7A), (0xFE7C, 0xFE7C),
  (0xFE7E, 0xFE7E), (0xFFA0, 0xFFA0), (0xFFE3, 0xFFE3), (0xFFFC, 0xFFFD), (0x1F100, 0x1F100)]

/-- May the character, which stands for itself, be part of a name? -/
def isFit (c : Char) : Bool :=
  if c.toNat < 0x80 then !isForbidden c
  else Unicode.isAssigned c && !Unicode.isSeparator c && !Unicode.control.has c &&
    !Unicode.formatting.has c && !Unicode.privateUse.has c && !unfit.has c

/-- Is a label fit whose characters stand for themselves? No mark may open it. -/
def isFitLabel (cs : List Char) : Bool := !cs.head?.any Unicode.isMark && cs.all isFit

def isAscii (cs : List Char) : Bool := cs.all fun c => c.toNat < 0x80

/-- The beginning of a label in Punycode. -/
def acePrefix : List Char := ['x', 'n', '-', '-']

/-- The ASCII form of a label. One that claims to be such a form already must be the form of a fit label. -/
def asciiLabel? (cs : List Char) : Option (List Char) :=
  match afterStart acePrefix cs with
  | some code => do
    let label ← if isAscii code then Punycode.decode? code else none
    if isAscii label || !isFitLabel label || label.flatMap mapped != label ||
        Punycode.encode label != code then none
    else some cs
  | none =>
    if !isFitLabel cs then none
    else if isAscii cs then some cs
    else some (acePrefix ++ Punycode.encode cs)

/-- The ASCII form of a name. -/
def asciiName? (cs : List Char) : Option (List Char) :=
  ((piecesBy (· == '.') (cs.flatMap mapped)).mapM asciiLabel?).map fun labels =>
    ['.'].intercalate labels

/-! ## Numbers as names -/

/-- The value of digits below the base; nothing is zero. -/
def digitsIn? (base : Nat) (cs : List Char) : Option Nat :=
  if cs.all fun c => isHexDigit c && hexValue c < base then
    some (cs.foldl (fun n c => base * n + hexValue c) 0)
  else none

/-- A number in base sixteen after `0x`, in base eight after `0`, else in base ten. -/
def number? : List Char → Option Nat
  | [] => none
  | '0' :: c :: cs => if c == 'x' || c == 'X' then digitsIn? 16 cs else digitsIn? 8 (c :: cs)
  | cs => digitsIn? 10 cs

/-- The labels of a name, without an empty last one. -/
def labels (cs : List Char) : List (List Char) :=
  let ls := piecesBy (· == '.') cs
  if ls.getLast? == some [] && ls.length > 1 then ls.dropLast else ls

/-- Is the last label of a name a number? -/
def endsInNumber (cs : List Char) : Bool :=
  (labels cs).getLast?.any fun l => (!l.isEmpty && l.all isAsciiDigit) || (number? l).isSome

/-- The address that up to four numbers mean: the last one fills all octets that are left. -/
def addressOf? : (octets : Nat) → List Nat → Option Nat
  | _, [] => none
  | octets, [last] => if last < 1 <<< (8 * octets) then some last else none
  | octets + 1, n :: rest =>
    if n < 256 then (addressOf? octets rest).map (n <<< (8 * octets) + ·) else none
  | 0, _ :: _ :: _ => none

def numbersAddress? (cs : List Char) : Option Nat := do
  let numbers ← (labels cs).mapM number?
  if 4 < numbers.length then none else addressOf? 4 numbers

/-! ## Reading -/

/-- The address between square brackets. -/
def bracketed? (cs : List Char) : Option Host :=
  (beforeEnd [']'] cs).bind fun cs => (Ip.v6? cs).map .v6

/-- The host of a URL of a well-known scheme. -/
def special? : List Char → Option Host
  | '[' :: cs => bracketed? cs
  | cs =>
    match Utf8.decode (Percent.decode cs) with
    | (cs, .complete) => do
      let name ← asciiName? cs
      if name.isEmpty then none
      else if endsInNumber name then (numbersAddress? name).map .v4
      else some (.name (String.ofList name))
    | _ => none

/-- The host of a URL of any other scheme; it may be empty. -/
def plain? : List Char → Option Host
  | '[' :: cs => bracketed? cs
  | cs =>
    if cs.any forbidden.contains then none
    else some (.name (String.ofList (Percent.encode [] cs)))

end Host

end FieldRules
