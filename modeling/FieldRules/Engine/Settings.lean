import FieldRules.Engine.Policy
import FieldRules.Json.Skip
/-!
# Settings

What holds for all calls of an engine. Settings come from a document, where each may be left out, or from
named values.
-/

namespace FieldRules

open FieldRules.Text

structure Settings where
  html : Bool := true
  strip : Bool := true
  /-- How long a probe of a URL may take, in seconds. -/
  probeTimeout : Nat := 5
  /-- The regions of telephone numbers that rules need not name. -/
  telRegions : List String := []
  deriving DecidableEq, Repr

namespace Settings

def policy (s : Settings) : Policy := ⟨s.html, s.strip⟩

/-! ## From a document -/

/-- The names of the settings in a document, in order. -/
def names : List String := ["html", "strip", "url_probe_timeout_secs", "tel_regions"]

/-- The texts of a list of texts. -/
def texts? (items : List Json) : Option (List String) :=
  items.mapM fun
    | .string s => some s
    | _ => none

/-- The settings with the one of a name changed. -/
def set? (s : Settings) (name : String) (v : Json) : Option Settings :=
  match name, v with
  | "html", .bool b => some { s with html := b }
  | "strip", .bool b => some { s with strip := b }
  | "url_probe_timeout_secs", .number (.whole n) =>
    if 0 ≤ n ∧ n < bound64 then some { s with probeTimeout := n.toNat } else none
  | "tel_regions", .array items => (texts? items).map fun regions => { s with telRegions := regions }
  | _, _ => none

/-- Reads the entries of a document up to its brace: at least one. A name may stand once, and entries of
other names are passed over. -/
def readEntries? (s : Settings) (seen : List String) : (fuel : Nat) → List Char →
    Option (Settings × List Char)
  | 0, _ => none
  | fuel + 1, cs => do
    let '\x22' :: rest := Json.skipGap cs | none
    let (name, rest) ← Json.string? rest
    let ':' :: rest := Json.skipGap rest | none
    let (s, rest) ←
      if names.contains name then
        if seen.contains name then none else do
          let (v, rest) ← Json.value? Json.maxDepth (3 * rest.length + 3) rest
          (set? s name v).map fun s => (s, rest)
      else (Json.skipValue? (3 * rest.length + 3) rest).map fun rest => (s, rest)
    match Json.skipGap rest with
    | '\x7d' :: rest => some (s, rest)
    | ',' :: rest => readEntries? s (name :: seen) fuel rest
    | _ => none

/-- The settings of a list of values in the order of their names. -/
def ofItems? (items : List Json) : Option Settings :=
  if names.length < items.length then none
  else (names.zip items).foldlM (fun s (name, v) => set? s name v) {}

/-- The settings of a document: an object by name, or an array in order. -/
def parse? (document : String) : Option Settings := do
  let cs := document.toList
  match Json.skipGap cs with
  | '\x7b' :: rest =>
    let (s, rest) ← match Json.skipGap rest with
      | '\x7d' :: rest => some ({}, rest)
      | rest => readEntries? {} [] (rest.length + 1) rest
    if (Json.skipGap rest).isEmpty then some s else none
  | _ =>
    let .array items ← Json.parse? document | none
    ofItems? items

/-! ## From named values -/

/-- A value that its setting cannot have. -/
structure Invalid where
  key : String
  value : String
  deriving DecidableEq, Repr

def Invalid.message (e : Invalid) : String :=
  "Invalid value '" ++ e.value ++ "' for setting '" ++ e.key ++ "'"

/-- Changes the settings by the value under a key, if there is one. -/
def change {α : Type} (config : String → Option String) (key : String) (read : String → Option α)
    (put : Settings → α → Settings) (s : Settings) : Except Invalid Settings :=
  match config key with
  | none => .ok s
  | some value =>
    match read value with
    | some a => .ok (put s a)
    | none => .error ⟨key, value⟩

/-- The settings of named values; the first value that does not fit is the fault. -/
def ofConfig (config : String → Option String) : Except Invalid Settings := do
  let s ← change config "HTML" parseSwitch (fun s b => { s with html := b }) {}
  let s ← change config "STRIP" parseSwitch (fun s b => { s with strip := b }) s
  let s ← change config "URL_PROBE_TIMEOUT" (fun v => nat64? (trim v))
    (fun s n => { s with probeTimeout := n }) s
  change config "TEL_REGIONS"
    (fun v => some (((pieces ',' v).map fun r => asciiUpper (trim r)).filter (!·.isEmpty)))
    (fun s regions => { s with telRegions := regions }) s

end Settings

end FieldRules
