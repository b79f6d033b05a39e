import FieldRules.Calendar.Moment
import FieldRules.Json.Parser
import FieldRules.Json.Printer
import FieldRules.Text.Blank
import FieldRules.Text.Case
/-!
# Values

The trees that are checked and delivered: leaves, uploads and maps. An object of exactly the keys of an
upload is recognized once, when a tree is built, so nothing later looks at shapes again.
-/

namespace FieldRules

/-! ## Reserved texts -/

/-- Stands for a field that was not sent, and for a leaf on which nothing was submitted. -/
def emptyMark : String := "__RULEFORM_INTERNAL_EMPTY__"

/-- Stands for a leaf that was made not null; delivered as the empty text. -/
def notNullMark : String := "__RULEFORM_NOTNULL_VALUE__"

/-- Stands for an array that is checked as a whole. -/
def arrayMark : String := "__RULEFORM_ARRAY_VALUE__"

/-- What some clients send for no value. -/
def emptyPlaceholder : String := "[empty]"

/-- Nothing was submitted. White space is something. -/
def isUnset (s : String) : Bool := s.isEmpty || s == emptyMark

/-- Nothing but white space was submitted, or a text that stands for nothing. -/
def isBlankText (s : String) : Bool :=
  (Text.trim s).isEmpty || s == emptyMark || s == emptyPlaceholder

/-! ## Uploads -/

/-- An uploaded file, as the sender and the receiving server describe it. -/
structure Upload where
  /-- The name on the sender's side. -/
  name : String
  /-- The type that the sender claims; no check believes it. -/
  claimedType : String
  /-- Where the server put the bytes. -/
  path : String
  /-- The error code of the upload, zero for none. -/
  error : Int
  /-- The size in bytes. -/
  size : Nat
  deriving DecidableEq, Repr

namespace Upload

/-- The error code of an upload without a file. -/
def noFile : Int := 4

def isMissing (u : Upload) : Bool := u.error == noFile

/-- What follows the last point of the name, in small letters. -/
def extension? (u : Upload) : Option String :=
  match Text.cutLast '.' u.name with
  | some (_, ext) => if ext.isEmpty then none else some (Text.lower ext)
  | none => none

/-- The keys of an upload. -/
def keys : List String := ["name", "type", "tmp_name", "error", "size"]

/-- A further key that some senders add. -/
def optionalKey : String := "full_path"

/-- A scalar as text; null is the empty text. -/
def textField? : Json → Option String
  | .string s => some s
  | .null => some ""
  | .array _ | .object _ => none
  | v => some v.text

/-- A number of 64 bits with sign, or its text. -/
def intField? : Json → Option Int
  | .number (.whole n) => if n < Text.bound63 then some n else none
  | .string s => Text.int64? (Text.trim s)
  | _ => none

/-- The upload that an object with exactly the keys of an upload describes. -/
def ofEntries? (entries : List (String × Json)) : Option Upload :=
  let expected := keys.length + if Keyed.has entries optionalKey then 1 else 0
  if entries.length ≠ expected ∨ !keys.all (Keyed.has entries) then none else do
    let name ← (Keyed.get? entries "name").bind textField?
    let claimedType ← (Keyed.get? entries "type").bind textField?
    let path ← (Keyed.get? entries "tmp_name").bind textField?
    let error ← (Keyed.get? entries "error").bind intField?
    let size ← (Keyed.get? entries "size").bind intField?
    if 0 ≤ size then some { name, claimedType, path, error, size := size.toNat } else none

/-- The record that describes an upload. -/
def toEntries (u : Upload) : List (String × Json) :=
  [("name", .string u.name), ("type", .string u.claimedType), ("tmp_name", .string u.path),
    ("error", .number (.whole u.error)), ("size", .number (.whole u.size))]

end Upload

/-! ## Trees -/

/-- A node of a tree. Integers have 64 bits with sign. -/
inductive Value where
  | null
  | bool (b : Bool)
  | int (n : Int)
  | float (x : Binary64)
  | text (s : String)
  | moment (m : Moment)
  | upload (u : Upload)
  | map (entries : List (String × Value))
  deriving Repr, Inhabited

namespace Value

mutual

/-- Are two trees the same? -/
def same : Value → Value → Bool
  | .null, .null => true
  | .bool a, .bool b => a == b
  | .int a, .int b => a == b
  | .float a, .float b => a == b
  | .text a, .text b => a == b
  | .moment a, .moment b => a == b
  | .upload a, .upload b => a == b
  | .map as, .map bs => sameEntries as bs
  | _, _ => false
termination_by structural a => a

def sameEntries : List (String × Value) → List (String × Value) → Bool
  | [], [] => true
  | (j, a) :: as, (k, b) :: bs => j == k && same a b && sameEntries as bs
  | _, _ => false
termination_by structural as => as

end

mutual

theorem same_iff : ∀ a b : Value, same a b = true ↔ a = b
  | .map as, .map bs => by simp [same, sameEntries_iff as bs]
  | .null, b | .bool _, b | .int _, b | .float _, b | .text _, b | .moment _, b | .upload _, b => by
    cases b <;> simp [same]
  | .map _, .null | .map _, .bool _ | .map _, .int _ | .map _, .float _ | .map _, .text _
  | .map _, .moment _ | .map _, .upload _ => by simp [same]
termination_by structural a => a

theorem sameEntries_iff : ∀ as bs : List (String × Value), sameEntries as bs = true ↔ as = bs
  | [], bs => by cases bs <;> simp [sameEntries]
  | (j, a) :: as, [] => by simp [sameEntries]
  | (j, a) :: as, (k, b) :: bs => by
    simp [sameEntries, same_iff a b, sameEntries_iff as bs, and_assoc]
termination_by structural as => as

end

instance : DecidableEq Value := fun a b => decidable_of_iff _ (same_iff a b)

/-- The leaf of a field on which nothing was submitted. -/
def empty : Value := .text emptyMark

/-- A blank text leaf. -/
def isBlank : Value → Bool
  | .text s => isBlankText s
  | _ => false

/-- Keys `0`, `1`, … for the items of a list, counted from `n`. -/
def numbered (n : Nat) : List Value → List (String × Value)
  | [] => []
  | v :: vs => (Text.showNat n, v) :: numbered (n + 1) vs

/-- A list is a map whose keys count its items. -/
def list (items : List Value) : Value := .map (numbered 0 items)

/-- The text of a scalar leaf. -/
def scalarText? : Value → Option String
  | .null => some "null"
  | .bool b => some (if b then "true" else "false")
  | .int n => some (Text.showInt n)
  | .float x => some x.toText
  | .text s => some s
  | .moment m => some m.text
  | .upload _ | .map _ => none

mutual

/-- The document form of a tree. -/
def toJson : Value → Json
  | .null => .null
  | .bool b => .bool b
  | .int n => .number (.whole n)
  | .float x => .number (.float x)
  | .text s => .string s
  | .moment m => .string m.text
  | .upload u => .object u.toEntries
  | .map entries => .object (entriesToJson entries)
termination_by structural v => v

def entriesToJson : List (String × Value) → List (String × Json)
  | [] => []
  | (k, v) :: rest => (k, toJson v) :: entriesToJson rest
termination_by structural es => es

end

mutual

/-- The tree of a JSON value: scalars become texts, arrays become maps, and the record of an upload
becomes that upload. -/
def ofJson : Json → Value
  | .null => .text "null"
  | .bool b => .text (if b then "true" else "false")
  | .number n => .text n.text
  | .string s => .text s
  | .array items => .list (itemsOfJson items)
  | .object entries =>
    match Upload.ofEntries? entries with
    | some u => .upload u
    | none => .map (entriesOfJson entries)
termination_by structural v => v

def itemsOfJson : List Json → List Value
  | [] => []
  | v :: rest => ofJson v :: itemsOfJson rest
termination_by structural vs => vs

def entriesOfJson : List (String × Json) → List (String × Value)
  | [] => []
  | (k, v) :: rest => (k, ofJson v) :: entriesOfJson rest
termination_by structural es => es

end

/-- The tree of a request body. A body that is a text is read as JSON where that is possible; whatever is no
collection becomes the only item of a list. So does an upload, but not one that a text spells. -/
def ofBody : Json → Value
  | .string body =>
    match Json.parse? body with
    | some (.object entries) => ofJson (.object entries)
    | some (.array items) => ofJson (.array items)
    | some scalar => .list [ofJson scalar]
    | none => .list [.text body]
  | .object entries =>
    match ofJson (.object entries) with
    | .map tree => .map tree
    | file => .list [file]
  | .array items => ofJson (.array items)
  | scalar => .list [ofJson scalar]

end Value

end FieldRules
