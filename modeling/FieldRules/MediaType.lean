import FieldRules.Text.Ascii
import FieldRules.Text.Blank
import FieldRules.Text.Pieces
import FieldRules.Text.Utf8
/-!
# Media types

The type of a file as its first bytes show it. Files without a known beginning are text of some kind, or
mere bytes.
-/

namespace FieldRules.MediaType

open FieldRules.Text

/-- The ASCII characters of a text as bytes. -/
def ascii (s : String) : List UInt8 := s.toList.map fun c => UInt8.ofNat c.toNat

/-- What must stand at the head of a file. -/
structure Signature where
  type : String
  /-- The bytes that a position must show. -/
  marks : List (Nat × List UInt8)
  /-- The least number of bytes. -/
  atLeast : Nat := 0

/-- Do the bytes show the signature? -/
def Signature.shows (s : Signature) (bytes : List UInt8) : Bool :=
  s.atLeast ≤ bytes.length && s.marks.all fun (n, mark) => mark.isPrefixOf (bytes.drop n)

/-- The signatures; the first that a file shows names its type. -/
def signatures : List Signature := [
  { type := "image/png", marks := [(0, [0x89, 0x50, 0x4E, 0x47, 0x0D, 0x0A, 0x1A, 0x0A])] },
  { type := "image/jpeg", marks := [(0, [0xFF, 0xD8, 0xFF])] },
  { type := "image/gif", marks := [(0, ascii "GIF87a")] },
  { type := "image/gif", marks := [(0, ascii "GIF89a")] },
  { type := "image/webp", marks := [(0, ascii "RIFF"), (8, ascii "WEBP")] },
  { type := "image/bmp", marks := [(0, ascii "BM")], atLeast := 14 },
  { type := "image/x-icon", marks := [(0, [0x00, 0x00, 0x01, 0x00])] },
  { type := "image/tiff", marks := [(0, [0x49, 0x49, 0x2A, 0x00])] },
  { type := "image/tiff", marks := [(0, [0x4D, 0x4D, 0x00, 0x2A])] },
  { type := "application/pdf", marks := [(0, ascii "%PDF-")] },
  { type := "application/zip", marks := [(0, [0x50, 0x4B, 0x03, 0x04])] },
  { type := "application/zip", marks := [(0, [0x50, 0x4B, 0x05, 0x06])] },
  { type := "application/gzip", marks := [(0, [0x1F, 0x8B])] },
  { type := "application/x-7z-compressed", marks := [(0, [0x37, 0x7A, 0xBC, 0xAF, 0x27, 0x1C])] },
  { type := "application/vnd.rar", marks := [(0, [0x52, 0x61, 0x72, 0x21, 0x1A, 0x07])] },
  { type := "audio/wav", marks := [(0, ascii "RIFF"), (8, ascii "WAVE")] },
  { type := "video/x-msvideo", marks := [(0, ascii "RIFF"), (8, ascii "AVI ")] },
  { type := "audio/mpeg", marks := [(0, ascii "ID3")] },
  { type := "audio/mpeg", marks := [(0, [0xFF, 0xFB])] },
  { type := "audio/mpeg", marks := [(0, [0xFF, 0xF3])] },
  { type := "audio/ogg", marks := [(0, ascii "OggS")] },
  { type := "audio/flac", marks := [(0, ascii "fLaC")] },
  { type := "video/mp4", marks := [(4, ascii "ftyp")] },
  { type := "video/webm", marks := [(0, [0x1A, 0x45, 0xDF, 0xA3])] }]

/-- The type of bytes of no known kind. -/
def unknown : String := "application/octet-stream"

/-- The type of a text, by how it begins. -/
def ofText (cs : List Char) : String :=
  let head := (trimStartChars cs).map Char.toLower
  let starts (s : String) := s.toList.isPrefixOf head
  if starts "<svg" || (starts "<?xml" && occurs "<svg".toList head) then "image/svg+xml"
  else if starts "<!doctype html" || starts "<html" then "text/html"
  else if starts "<?xml" then "application/xml"
  else "text/plain"

/-- The type of bytes without a known signature: a text has no zero byte and is UTF-8, up to a last
character that may be cut. -/
def sniffText (bytes : List UInt8) : String :=
  if bytes.contains 0 then unknown else
  match Utf8.decode bytes with
  | (_, .invalid) => unknown
  | (cs, _) => ofText cs

/-- The type that the first bytes of a file show. -/
def sniff (bytes : List UInt8) : String :=
  match signatures.find? (·.shows bytes) with
  | some s => s.type
  | none => sniffText bytes

/-- How many bytes of a file are looked at. -/
def sniffLength : Nat := 512

/-- Is a type allowed by an entry of a list: a type, or a family as `image/*`? -/
def matchesEntry (detected entry : String) : Bool :=
  let entry := asciiLower (trim entry)
  match beforeEnd ['/', '*'] entry.toList with
  | some family => (pieces '/' detected).head? == some (String.ofList family)
  | none => detected == entry

end FieldRules.MediaType
