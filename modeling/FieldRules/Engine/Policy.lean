import FieldRules.Failure
import FieldRules.Json.Printer
import FieldRules.Text.Ascii
import FieldRules.Text.Blank
/-!
# The policy of cleaning

Which steps texts go through before they are delivered. A reserved key among the rules sets it for one call.
-/

namespace FieldRules

open FieldRules.Text

/-- What is done to text leaves. -/
structure Policy where
  /-- Markup is escaped. -/
  html : Bool := true
  /-- Tags are taken out first. -/
  strip : Bool := true
  deriving DecidableEq, Repr

/-- The key of the policy among the rules. -/
def policyKey : String := "__CONFIG__"

/-- The key in quotes, as some clients send it. -/
def quotedPolicyKey : String := "'" ++ policyKey ++ "'"

/-- Yes or no in a setting. -/
def parseSwitch (s : String) : Option Bool :=
  let word := asciiLower (trim s)
  if ["true", "t", "1", "yes", "y", "on"].contains word then some true
  else if ["false", "f", "0", "no", "n", "off"].contains word then some false
  else none

namespace Policy

mutual

/-- The text of a policy that is given as a document. -/
def ruleText : Json → String
  | .string s => s
  | .null => ""
  | .array items => join ";" ((itemTexts items).filter fun cell => !(trim cell).isEmpty)
  | .object entries => join ";" (entries.map fun (key, v) =>
      match v with
      | .null => key
      | .string s => key ++ ":" ++ s
      | v => key ++ ":" ++ v.text)
  | v => v.text
termination_by structural v => v

def itemTexts : List Json → List String
  | [] => []
  | v :: rest => ruleText v :: itemTexts rest
termination_by structural vs => vs

end

/-- A cell of a policy: the name of a setting and its value. -/
def splitCell (cell : String) : String × String :=
  match cutOnce ':' cell with
  | some (name, value) => (trim name, trim value)
  | none => (cell, "")

/-- The policy with one setting changed. Each setting has a second name that begins with `f`. -/
def set (policy : Policy) (cell : String) : Except Fault Policy :=
  let (name, value) := splitCell cell
  let change (put : Bool → Policy) : Except Fault Policy :=
    if value.isEmpty then .error (.settingWithoutValue name)
    else match parseSwitch value with
      | some b => .ok (put b)
      | none => .error (.settingNotBoolean name value)
  match asciiLower name with
  | "html" | "fhtml" => change fun b => { policy with html := b }
  | "strip" | "fstrip" => change fun b => { policy with strip := b }
  | _ => .error (.unknownSetting name)

/-- The policy that a text makes of a base, cell by cell. -/
def parse (rule : String) (base : Policy) : Except Fault Policy :=
  let separator := if rule.toList.contains ';' then ';' else '|'
  (((pieces separator rule).map trim).filter (!·.isEmpty)).foldlM set base

end Policy

end FieldRules
