import FieldRules.Rule.PatternStash
import FieldRules.Rule.Synonyms
/-!
# Rules as text

A rule is a list of cells `test[:modifiers][:values]`, with `;` between them, or `|` in a rule without `;`.
The word `ignore` anywhere outside a pattern makes the whole rule that one test.
-/

namespace FieldRules

open FieldRules.Text

/-- Separates values that may hold commas. -/
def valueSeparator : Char := '\x1f'

/-- The values of a cell: what stands between its separators, without outer blanks and without the empty
ones. -/
def splitValues (s : String) : List String :=
  let separator := if s.toList.contains valueSeparator then valueSeparator else ','
  ((pieces separator s).map trim).filter (!·.isEmpty)

/-- Is a text with commas a list of modifiers of a test, the first one not blank? -/
def namesModifiers (test : Test) (s : String) : Bool :=
  let words := (pieces ',' s).map trim
  words.head?.any (!·.isEmpty) && words.all test.knows

/-- The text of the modifiers and that of the values after the name of a test. A test that takes its values
directly has modifiers only where their names stand before a colon. -/
def splitArguments (test : Test) (rest : String) : Option String × Option String :=
  match cutOnce ':' rest with
  | some (head, tail) =>
    if !test.hasDirectValue || namesModifiers test head then (some head, some tail)
    else (none, some rest)
  | none => if test.hasDirectValue then (none, some rest) else (some rest, none)

/-- The modifiers that a text with commas names. -/
def splitModifiers (test : Test) (s : String) : List Modifier :=
  (((pieces ',' s).map trim).filter (!·.isEmpty)).map test.modifier

namespace Token

/-- The token of a cell whose patterns are in a stash. -/
def ofCell (stash : PatternStash) (cell : String) : Token :=
  let cell := trim cell
  match cutOnce ':' cell with
  | none => { test := .ofName cell }
  | some (name, rest) =>
    let test := Test.ofName name
    let (modifiers, values) := splitArguments test rest
    { test
      modifiers := match modifiers with
        | some s => splitModifiers test s
        | none => []
      values := match values with
        | some s => (splitValues s).map stash.restore
        | none => [] }

end Token

/-- Does the text hold the word that turns a rule off? -/
def mentionsIgnore (s : String) : Bool :=
  (piecesBy (fun c => !Unicode.isWord c) s.toList).any fun word =>
    ["ignore", "ig"].contains (String.ofList (word.map Char.toLower))

/-- The tokens of a rule. -/
def tokenize (rule : String) : List Token :=
  let (stash, lifted) := PatternStash.lift {} rule
  if mentionsIgnore lifted then [{ test := .ignore }] else
  let separator := if lifted.toList.contains ';' then ';' else '|'
  ((pieces separator lifted).filter fun cell => !(trim cell).isEmpty).map (Token.ofCell stash)

end FieldRules
