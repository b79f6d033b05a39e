import FieldRules.Text.Ascii
import FieldRules.Text.Pieces
import FieldRules.Text.Whole
/-!
# IP addresses

The strict written forms of addresses: four decimal octets without leading zeros, or eight groups of base
sixteen, where `::` stands for one or more groups of zeros and the last two groups may be written as
octets.
-/

namespace FieldRules.Ip

open FieldRules.Text

/-- The value of a decimal octet. -/
def octet? (cs : List Char) : Option Nat :=
  if cs.length ≤ 3 && (cs == ['0'] || cs.head? != some '0') then (digits? cs).filter (· < 256) else none

/-- The value of an address of four octets. -/
def v4? (cs : List Char) : Option Nat :=
  match (piecesBy (· == '.') cs).map octet? with
  | [some a, some b, some c, some d] => some (((a * 256 + b) * 256 + c) * 256 + d)
  | _ => none

/-- The value of a group: at most four digits of base sixteen. -/
def group? (cs : List Char) : Option Nat :=
  if 1 ≤ cs.length && cs.length ≤ 4 && cs.all isHexDigit then
    some (cs.foldl (fun n c => 16 * n + hexValue c) 0)
  else none

/-- The groups of a text; the last piece may be octets, which are two groups. -/
def groups? : List (List Char) → Option (List Nat)
  | [] => none
  | [last] =>
    match group? last with
    | some g => some [g]
    | none => (v4? last).map fun n => [n / 65536, n % 65536]
  | cs :: rest => do return (← group? cs) :: (← groups? rest)

/-- What stands before and after the first `::`. -/
def cutGap : List Char → Option (List Char × List Char)
  | ':' :: ':' :: rest => some ([], rest)
  | c :: rest => (cutGap rest).map fun (a, b) => (c :: a, b)
  | [] => none

/-- The groups before a gap, which cannot be octets. -/
def headGroups? (cs : List Char) : Option (List Nat) :=
  if cs.isEmpty then some [] else (piecesBy (· == ':') cs).mapM group?

/-- The groups after a gap. -/
def tailGroups? (cs : List Char) : Option (List Nat) :=
  if cs.isEmpty then some [] else groups? (piecesBy (· == ':') cs)

/-- The eight groups of an address. -/
def v6? (cs : List Char) : Option (List Nat) :=
  match cutGap cs with
  | none => (groups? (piecesBy (· == ':') cs)).filter (·.length == 8)
  | some (before, after) => do
    let head ← headGroups? before
    let tail ← tailGroups? after
    let count := head.length + tail.length
    if count ≤ 7 then some (head ++ List.replicate (8 - count) 0 ++ tail) else none

def isV4 (s : String) : Bool := (v4? s.toList).isSome

def isV6 (s : String) : Bool := (v6? s.toList).isSome

/-! ## Writing -/

/-- The octets of an address with points between. -/
def v4Text (n : Nat) : String :=
  join "." ([n / 16777216, n / 65536, n / 256, n].map fun k => showNat (k % 256))

def hexText (n : Nat) : String := String.ofList (Nat.toDigits 16 n)

/-- The longest run of zeros, as its place and its length; of equal ones the first. -/
def longestZeros (groups : List Nat) : Nat × Nat :=
  let runs := (List.range groups.length).map fun i => (i, ((groups.drop i).takeWhile (· == 0)).length)
  runs.foldl (fun best run => if best.2 < run.2 then run else best) (0, 0)

/-- The groups of an address, with `::` for the longest run of at least two zeros. -/
def v6Text (groups : List Nat) : String :=
  let (start, count) := longestZeros groups
  let write (gs : List Nat) := join ":" (gs.map hexText)
  if count < 2 then write groups
  else write (groups.take start) ++ "::" ++ write (groups.drop (start + count))

end FieldRules.Ip
