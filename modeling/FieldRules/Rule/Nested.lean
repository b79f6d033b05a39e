import FieldRules.Json.Printer
import FieldRules.Rule.Cell
/-!
# Rules as documents

A rule may be a JSON value: an object of tests with their arguments, or a list of cells. It is brought into
the form of a text, so that there is one grammar.
-/

namespace FieldRules

open FieldRules.Text

/-- A key that only numbers an entry. -/
def isIndex (key : String) : Bool := !key.toList.isEmpty && key.toList.all isAsciiDigit

/-- Is a text a word, in any case of its ASCII letters? -/
def isWordText (word s : String) : Bool := asciiLower (trim s) == word

/-- True, or a text that says so. -/
def isFlag : Json → Bool
  | .bool b => b
  | .string s => isWordText "true" s
  | _ => false

/-- The text of a value that is no collection and not null. -/
def argumentText? : Json → Option String
  | .string s => some s
  | .number n => some n.text
  | .bool b => some (if b then "true" else "false")
  | _ => none

/-- Values as one text. -/
def joinValues (values : List String) : String := join (String.singleton valueSeparator) values

/-- The modifier that an entry of the arguments of a test names, and its values. -/
def argument (key : String) (v : Json) : List String × List String :=
  if isIndex key then ([], (argumentText? v).toList) else
  match v with
  | .array items => ([key], items.filterMap argumentText?)
  | v => ([key], if isFlag v then [] else (argumentText? v).toList)

/-- The cell of a test whose arguments are an object of modifiers and values. -/
def nestedCell (key : String) (entries : List (String × Json)) : String :=
  let arguments := entries.map fun (k, v) => argument k v
  let modifiers := arguments.flatMap Prod.fst
  let values := joinValues (arguments.flatMap Prod.snd)
  key ++ (if modifiers.isEmpty then "" else ":" ++ join "," modifiers) ++
    (if values.isEmpty then "" else ":" ++ values)

/-- The cell of an entry of a rule whose key names a test. A test that is false or null has none. -/
def testCell? (key : String) (v : Json) : Option String :=
  if isFlag v then some key else
  match v with
  | .null | .bool _ => none
  | .string s => if isWordText "false" s then none else some (key ++ ":" ++ s)
  | .number n => some (key ++ ":" ++ n.text)
  | .array items => some (key ++ ":" ++ joinValues (items.filterMap argumentText?))
  | .object entries => some (nestedCell key entries)

mutual

/-- The cells of a rule, blank ones among them. -/
def cells : Json → List String
  | .null => []
  | .string s => [s]
  | .bool b => [if b then "true" else "false"]
  | .number n => [n.text]
  | .array items => itemCells items
  | .object entries => entryCells entries
termination_by structural v => v

def itemCells : List Json → List String
  | [] => []
  | v :: rest => cells v ++ itemCells rest
termination_by structural vs => vs

def entryCells : List (String × Json) → List String
  | [] => []
  | (key, v) :: rest =>
    (if isIndex key then cells v else (testCell? key v).toList) ++ entryCells rest
termination_by structural es => es

end

/-- The text of a rule. -/
def ruleText (rule : Json) : String :=
  join ";" ((cells rule).filter fun cell => !(trim cell).isEmpty)

end FieldRules
