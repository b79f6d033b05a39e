import FieldRules.Engine.Policy
import FieldRules.Keyed
import FieldRules.Markup
import FieldRules.Value
/-!
# Cleaning the tree

What is delivered has been trimmed, stripped of tags and escaped as the policy says, and blank leaves are
left out.
-/

namespace FieldRules

open FieldRules.Text

namespace Policy

/-- A text without its outer blanks, without tags and with markup escaped. The mark of a leaf that was made
not null stays. -/
def cleanText (policy : Policy) (s : String) : String :=
  if s == notNullMark then s else
  let s := trim s
  let s := if policy.strip then trim (Markup.strip s) else s
  if policy.html then Markup.escape s else s

mutual

/-- Cleans the texts of a node; other leaves stay. -/
def clean (policy : Policy) : Value → Value
  | .text s => .text (policy.cleanText s)
  | .map entries => .map (cleanEntries policy entries)
  | v => v
termination_by structural v => v

/-- Cleans entries and leaves out those that are blank then. -/
def cleanEntries (policy : Policy) : List (String × Value) → List (String × Value)
  | [] => []
  | (key, v) :: rest =>
    let v := clean policy v
    if v.isBlank then cleanEntries policy rest else (key, v) :: cleanEntries policy rest
termination_by structural es => es

end

/-- Cleans a field, unless it is untouched; a field that is blank then is left out. -/
def cleanField (policy : Policy) (untouched : List String) (field : String × Value) :
    Option (String × Value) :=
  if untouched.contains field.1 then some field
  else
    let v := policy.clean field.2
    if v.isBlank then none else some (field.1, v)

/-- Cleans fields. The policy's own key is no field. -/
def cleanFields (policy : Policy) (untouched : List String) (fields : List (String × Value)) :
    List (String × Value) :=
  (Keyed.remove fields policyKey).filterMap (policy.cleanField untouched)

/-- Cleans the fields of a tree. -/
def cleanTree (policy : Policy) (untouched : List String) : Value → Value
  | .map fields => .map (cleanFields policy untouched fields)
  | v => v

end Policy

mutual

/-- Empties the leaves that were made not null. -/
def Value.emptyMarked : Value → Value
  | .text s => .text (if s == notNullMark then "" else s)
  | .map entries => .map (Value.emptyMarkedEntries entries)
  | v => v
termination_by structural v => v

def Value.emptyMarkedEntries : List (String × Value) → List (String × Value)
  | [] => []
  | (key, v) :: rest => (key, v.emptyMarked) :: Value.emptyMarkedEntries rest
termination_by structural es => es

end

end FieldRules
