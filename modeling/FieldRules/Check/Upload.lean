import FieldRules.Check.Basic
import FieldRules.MediaType
import FieldRules.Text.Sorted
/-!
# Tests of uploads

Only what the receiving server knows is believed: where the bytes are, what they are, and how many. The type
that the sender claims plays no part.
-/

namespace FieldRules

open FieldRules.Text

/-! ## Extensions -/

/-- Extensions of one format, which stand for each other. No extension stands twice. -/
def siblings : List (List String) := [
  ["jpg", "jpeg", "jpe", "jfif"],
  ["tif", "tiff"],
  ["htm", "html"],
  ["mpg", "mpeg", "mpe"],
  ["mid", "midi"],
  ["aif", "aiff", "aifc"],
  ["ogg", "oga"],
  ["yml", "yaml"],
  ["gz", "gzip"],
  ["txt", "text"]]

/-- An extension of a rule as it is compared: without leading points, in small letters. -/
def plainExtension (s : String) : String := lower (String.ofList (s.toList.dropWhile (· == '.')))

/-- An extension with its siblings. -/
def withSiblings (ext : String) : List String := (siblings.find? (·.contains ext)).getD [ext]

/-- The extensions of a list with their siblings, sorted. -/
def expandExtensions (list : List String) : List String :=
  sortDistinct (list.flatMap fun s => withSiblings (plainExtension s))

/-! ## Sizes -/

/-- The power of 1024 that a unit means; without a unit the number counts megabytes. -/
def unitPower? (unit : List Char) : Option Nat :=
  match asciiUpper (String.ofList unit) with
  | "" | "MB" => some 2
  | "B" => some 0
  | "KB" => some 1
  | "GB" => some 3
  | "TB" => some 4
  | _ => none

/-- The digits of a size, with a point for its comma, and what follows them. A fraction needs digits
before it. -/
def takeAmount (cs : List Char) : List Char × List Char :=
  let whole := cs.takeWhile isAsciiDigit
  match cs.dropWhile isAsciiDigit with
  | c :: rest =>
    if !whole.isEmpty && (c == '.' || c == ',') && rest.head?.any isAsciiDigit then
      (whole ++ '.' :: rest.takeWhile isAsciiDigit, rest.dropWhile isAsciiDigit)
    else (whole, c :: rest)
  | [] => (whole, [])

/-- A float as a count of 64 bits, the greatest if it is too great. -/
def saturated (x : Binary64) : Nat :=
  match x.truncate with
  | some n => min n.toNat (bound64 - 1)
  | none => bound64 - 1

/-- The bytes that a size such as `500 KB` means, rounded to the nearest. -/
def parseSize (raw : String) : Except Fault Nat :=
  let (amount, rest) := takeAmount (trimChars raw.toList)
  if amount.isEmpty then .error (.malformedSize raw) else
  match unitPower? (trimStartChars rest), Binary64.read? (String.ofList amount) with
  | some k, some x => .ok (saturated (x.mul (.ofInt (1 <<< (10 * k) : Nat))).roundHalfAway)
  | _, _ => .error (.malformedSize raw)

/-! ## Checks -/

namespace Check

/-- Refuses what was not uploaded in full through the request; passes over a missing upload. -/
def file (scope : Scope) : Subject → Check Outcome
  | .upload u =>
    if u.isMissing then return .empty
    else if u.error ≠ 0 then throw (.uploadFailed u.error)
    else do
      let genuine ← ask (.upload u.path) (scope.collaborators.isUploadedFile u.path)
      if genuine then return .accepted else throw (.notUploaded u.name)
  | s => if s.isUnset then return .empty else throw .notUpload

def extension (t : Token) (s : Subject) : Except Fault Outcome := do
  if t.values.isEmpty then throw (.missingValue Test.extension.name)
  let u ← s.expectUpload .extension
  let allowed := if t.has .strict then t.values.map plainExtension else expandExtensions t.values
  accept (u.extension?.any allowed.contains) (.extensionNotAllowed t.values)

/-- Compares the type that the bytes of an upload show with the list of a token. -/
def mime (c : Collaborators) (t : Token) (s : Subject) : Except Fault Outcome := do
  if t.values.isEmpty then throw (.missingValue Test.mime.name)
  let u ← s.expectUpload .mime
  let some bytes := c.contents u.path | throw (.unreadable u.name)
  let detected := MediaType.sniff (bytes.take MediaType.sniffLength)
  accept (t.values.any (MediaType.matchesEntry detected)) (.typeNotAllowed detected t.values)

def size (t : Token) (s : Subject) : Except Fault Outcome := do
  let raw ← t.joinedValue
  let limit ← parseSize raw
  let u ← s.expectUpload .size
  accept (u.size ≤ limit) (.tooLarge (trim raw))

end Check

end FieldRules
