import FieldRules.Proofs.Reading
/-!
# Rules written from cells

A rule that is written from plain cells and cells with delimited patterns is read back as just these cells, with either
separator between them (`tokenize_join`). It does not matter what the patterns hold: separators, commas and the word
that turns rules off mean nothing there.
-/

namespace FieldRules

open FieldRules.Text

/-! ## Cells -/

/-- A cell that holds no pattern and does not turn its rule off. -/
structure PlainCell where
  text : String
  not_blank : (trim text).isEmpty = false
  no_semicolon : ';' ∉ text.toList
  no_bar : '|' ∉ text.toList
  no_head : PatternStash.cellHead? text.toList = none
  no_ignore : mentionsIgnore text = false
  no_mark : occurs patternMark.toList text.toList = false

/-- A pattern between two equal delimiters, with flags behind the second. Within the body each delimiter is escaped, and
the closing one is not. -/
structure DelimitedPattern where
  delimiter : Char
  body : List Char
  flags : List Char
  delimits : Pattern.isDelimiter delimiter = true
  escapes : Pattern.EscapesEach delimiter body
  closes : Pattern.endsEscaping body = false
  letters : flags.all isAsciiLetter = true

/-- A cell that names the test of patterns, in any of its spellings, before a delimited pattern. -/
structure PatternCell where
  name : String
  pattern : DelimitedPattern
  names : PatternStash.cellHead? (name ++ ":").toList = some ((name ++ ":").toList, [])

/-- A cell to write a rule from. -/
inductive Cell where
  | plain (cell : PlainCell)
  | pattern (cell : PatternCell)

theorem PlainCell.not_isSeparator (cell : PlainCell) : ∀ c ∈ cell.text.toList, PatternStash.isSeparator c = false := by
  intro c hc
  by_contra hs
  rcases PatternStash.isSeparator_cases (by simpa using hs) with rfl | rfl
  · exact cell.no_semicolon hc
  · exact cell.no_bar hc

namespace DelimitedPattern

/-- The characters of a pattern. -/
def chars (p : DelimitedPattern) : List Char := p.delimiter :: (p.body ++ p.delimiter :: p.flags)

def text (p : DelimitedPattern) : String := String.ofList p.chars

@[simp] theorem toList_text (p : DelimitedPattern) : p.text.toList = p.chars := String.toList_ofList

theorem isAsciiLetter_of_mem_flags (p : DelimitedPattern) : ∀ c ∈ p.flags, isAsciiLetter c = true :=
  List.all_eq_true.1 p.letters

theorem trimStartChars_chars (p : DelimitedPattern) : trimStartChars p.chars = p.chars :=
  PatternStash.trimStartChars_delimited p.delimits _

theorem trimEndChars_chars (p : DelimitedPattern) : trimEndChars p.chars = p.chars :=
  PatternStash.trimEndChars_delimited p.delimits p.isAsciiLetter_of_mem_flags (p.delimiter :: p.body)

/-- All of the pattern is cut off, and nothing behind it. -/
theorem cutPattern_chars (p : DelimitedPattern) : PatternStash.cutPattern p.chars = (p.chars, []) := by
  rw [chars, PatternStash.cutPattern_closed p.delimits p.escapes p.closes,
    List.takeWhile_eq_self_iff.2 p.isAsciiLetter_of_mem_flags, List.dropWhile_eq_nil_iff.2 p.isAsciiLetter_of_mem_flags]

theorem not_escapesEach (p : DelimitedPattern) :
    ¬ Pattern.EscapesEach p.delimiter (p.body ++ p.delimiter :: p.flags) := by
  have hslash := PatternStash.ne_backslash_of_isDelimiter p.delimits
  rw [← PatternStash.cutClosing_eq_none_iff hslash, PatternStash.cutClosing_append hslash p.escapes p.closes]
  exact Option.some_ne_none _

end DelimitedPattern

namespace Cell

def text : Cell → String
  | plain cell => cell.text
  | pattern cell => cell.name ++ ":" ++ cell.pattern.text

/-- The token that a cell is to be read as. -/
def token : Cell → Token
  | plain cell => Token.ofCell {} cell.text
  | pattern cell => { test := .regex, values := [cell.pattern.text] }

/-- The outline of a cell. -/
def signs : Cell → List Sign
  | plain cell => cell.text.toList.map .char
  | pattern cell => (cell.name ++ ":").toList.map .char ++ [.pattern cell.pattern.text]

end Cell

theorem PatternCell.isCellHead (cell : PatternCell) : PatternStash.IsCellHead (cell.name ++ ":").toList :=
  (PatternStash.cellHead?_eq_some_iff.1 cell.names).1

theorem PatternCell.toList_text (cell : PatternCell) : (Cell.pattern cell).text.toList =
    (cell.name ++ ":").toList ++ cell.pattern.chars := by
  simp [Cell.text]

/-! ## The outline of a rule of cells -/

namespace PatternStash

theorem openSigns_pattern (cell : PatternCell) : openSigns (Cell.pattern cell).text.toList =
    ((cell.name ++ ":").toList.map .char ++ [.pattern cell.pattern.text], []) := by
  rw [cell.toList_text, openSigns_head cell.isCellHead, cell.pattern.trimStartChars_chars,
    cell.pattern.cutPattern_chars, cell.pattern.trimEndChars_chars, DelimitedPattern.text]

theorem dropWhile_openSigns_cell (cell : Cell) :
    (openSigns cell.text.toList).2.dropWhile (fun c => !isSeparator c) = [] := by
  cases cell with
  | plain cell =>
    have hopen : (openSigns cell.text.toList).2 = cell.text.toList := by simp [openSigns, cell.no_head]
    rw [Cell.text, hopen]
    exact List.dropWhile_eq_nil_iff.2 fun c hc => by simp [cell.not_isSeparator c hc]
  | pattern cell => rw [openSigns_pattern, List.dropWhile_nil]

theorem outline_cell (cell : Cell) : outline cell.text.toList = cell.signs := by
  rw [outline_of_nil (dropWhile_openSigns_cell cell)]
  cases cell with
  | plain cell => simp [openSigns, Cell.text, Cell.signs, cell.no_head]
  | pattern cell => rw [openSigns_pattern, List.map_nil, List.append_nil, Cell.signs]

section
variable {separator : Char} (hs : isSeparator separator = true)
include hs

theorem outline_cell_append (cell : Cell) (after : List Char) :
    outline (cell.text.toList ++ separator :: after) = cell.signs ++ .char separator :: outline after := by
  have hopen : openSigns (cell.text.toList ++ separator :: after) =
      ((openSigns cell.text.toList).1, (openSigns cell.text.toList).2 ++ separator :: after) := by
    refine openSigns_append hs fun head rest hcell => ?_
    cases cell with
    | plain cell =>
      rw [Cell.text, cell.no_head] at hcell
      cases hcell
    | pattern cell =>
      rw [cell.toList_text, cellHead?_eq_some_iff.2 ⟨cell.isCellHead, rfl⟩] at hcell
      cases hcell
      -- Only a closed pattern is cut off the same when something follows.
      rw [cell.pattern.trimStartChars_chars]
      exact cutPattern_append_delimited hs cell.pattern.delimits cell.pattern.not_escapesEach after
  rw [outline_append_of_nil hs hopen (dropWhile_openSigns_cell cell), outline_cell]

theorem outline_join {cells : List Cell} (hne : cells ≠ []) :
    outline (join (String.singleton separator) (cells.map Cell.text)).toList =
      [.char separator].intercalate (cells.map Cell.signs) := by
  induction cells with
  | nil => exact absurd rfl hne
  | cons cell cells ih =>
    cases cells with
    | nil => simp [outline_cell]
    | cons next cells =>
      have hjoin : (join (String.singleton separator) ((cell :: next :: cells).map Cell.text)).toList =
          cell.text.toList ++
            separator :: (join (String.singleton separator) ((next :: cells).map Cell.text)).toList := by
        simp [List.intercalate_cons_cons]
      rw [hjoin, outline_cell_append hs, ih (List.cons_ne_nil next cells)]
      simp [List.intercalate_cons_cons]

end

end PatternStash

/-! ## The word that turns a rule off -/

/-- What is shown of a cell does not turn the rule off, whatever its pattern holds. -/
theorem mentionsIgnore_signs (cell : Cell) (n : Nat) : mentionsIgnore (String.ofList (Sign.shown n cell.signs)) = false := by
  cases cell with
  | plain cell => simp [Cell.signs, cell.no_ignore]
  | pattern cell =>
    rw [Cell.signs, Sign.shown_append, Sign.shown_map_char, Sign.shown, Sign.shown, List.append_nil]
    exact mentionsIgnore_head_mark cell.isCellHead _

section
variable {separator : Char} (hs : PatternStash.isSeparator separator = true)
include hs

theorem mentionsIgnore_intercalate (cells : List Cell) (n : Nat) :
    mentionsIgnore (String.ofList (Sign.shown n ([.char separator].intercalate (cells.map Cell.signs)))) = false := by
  have hword : Unicode.isWord separator = false := by
    rcases PatternStash.isSeparator_cases hs with rfl | rfl <;> exact not_isWord_of_wordGaps rfl
  induction cells generalizing n with
  | nil => rfl
  | cons cell cells ih =>
    cases cells with
    | nil => simpa using mentionsIgnore_signs cell n
    | cons next cells =>
      have hsigns : [Sign.char separator].intercalate ((cell :: next :: cells).map Cell.signs) =
          cell.signs ++ .char separator :: [Sign.char separator].intercalate ((next :: cells).map Cell.signs) := by
        simp [List.intercalate_cons_cons]
      rw [hsigns, Sign.shown_append, Sign.shown, mentionsIgnore_append_cons hword, mentionsIgnore_signs, ih,
        Bool.or_false]

theorem char_not_mem_signs (cell : Cell) : .char separator ∉ cell.signs := by
  cases cell with
  | plain cell =>
    intro h
    have hc := cell.not_isSeparator separator (by simpa [Cell.signs] using h)
    rw [hs] at hc
    cases hc
  | pattern cell => exact PatternStash.char_not_mem_head cell.isCellHead hs _

end

/-! ## Reading a rule of cells -/

theorem readable_signs (cell : Cell) : Readable cell.signs := by
  cases cell with
  | plain cell => exact .plain cell.no_mark
  | pattern cell => exact readable_head cell.isCellHead cell.pattern.text

theorem tokens_signs (cell : Cell) : Sign.tokens cell.signs = [cell.token] := by
  cases cell with
  | plain cell => simp [Sign.tokens, Cell.signs, Cell.token, readCell, cell.not_blank]
  | pattern cell => exact tokens_head cell.isCellHead cell.pattern.text

section
variable {cells : List Cell} (hne : cells ≠ [])
include hne

theorem mentionsIgnore_lift_join {separator : Char} (hs : PatternStash.isSeparator separator = true) :
    mentionsIgnore (PatternStash.lift {} (join (String.singleton separator) (cells.map Cell.text))).2 = false := by
  rw [PatternStash.lift_eq_outline, PatternStash.outline_join hs hne]
  exact mentionsIgnore_intercalate hs cells 0

/-- No other separator stands in a rule of cells than the one between them. -/
theorem char_not_mem_outline_join {separator other : Char} (hs : PatternStash.isSeparator separator = true)
    (ho : PatternStash.isSeparator other = true) (hother : other ≠ separator) :
    .char other ∉ PatternStash.outline (join (String.singleton separator) (cells.map Cell.text)).toList := by
  rw [PatternStash.outline_join hs hne]
  refine not_mem_intercalate (by simpa using hother) ?_
  simpa using fun cell _ => char_not_mem_signs ho cell

end

/-- A rule written from cells, with semicolons or with bars between them, is read back as these cells. -/
theorem tokenize_join (cells : List Cell) : tokenize (join ";" (cells.map Cell.text)) = cells.map Cell.token ∧
    tokenize (join "|" (cells.map Cell.text)) = cells.map Cell.token := by
  by_cases hne : cells = []
  · rw [hne]
    exact ⟨tokenize_empty, tokenize_empty⟩
  have hpieces : cells.map Cell.signs ≠ [] := by simpa using hne
  have hread : ∀ p ∈ cells.map Cell.signs, Readable p := by
    simpa using fun cell _ => readable_signs cell
  have hnone : ∀ {c : Char}, PatternStash.isSeparator c = true → ∀ p ∈ cells.map Cell.signs, .char c ∉ p := by
    intro c hc
    simpa using fun cell _ => char_not_mem_signs hc cell
  have htokens : (cells.map Cell.signs).flatMap Sign.tokens = cells.map Cell.token := by
    simp [List.flatMap_map, tokens_signs, ← List.map_eq_flatMap]
  rw [← htokens, ← singleton_semicolon, ← singleton_bar]
  constructor
  · exact tokenize_of_semicolons (mentionsIgnore_lift_join hne rfl) hpieces hread (hnone rfl)
      (PatternStash.outline_join rfl hne) (.inr (char_not_mem_outline_join hne rfl rfl (by decide)))
  · exact tokenize_of_bars (mentionsIgnore_lift_join hne rfl) hpieces hread (hnone rfl)
      (PatternStash.outline_join rfl hne) (char_not_mem_outline_join hne rfl rfl (by decide))

/-- The cells of a rule on the name of a file. -/
def fileNameCells : List Cell :=
  [.pattern ⟨"re", ⟨'/', "^ignore;|a,b$".toList, ['i'], by decide, by decide, by decide, by decide⟩, by decide⟩,
    .plain ⟨"maxl:c:12", by decide, by decide, by decide, by decide, by decide +kernel, by decide⟩,
    .pattern ⟨" Pattern ", ⟨'#', "\\#|;".toList, [], by decide, by decide, by decide, by decide⟩, by decide⟩]

theorem tokenize_join_fileName : tokenize "re:/^ignore;|a,b$/i;maxl:c:12; Pattern :#\\#|;#" =
    [{ test := .regex, values := ["/^ignore;|a,b$/i"] },
      { test := .maxLength, modifiers := [.cut], values := ["12"] },
      { test := .regex, values := ["#\\#|;#"] }] := by
  have htext : join ";" (fileNameCells.map Cell.text) = "re:/^ignore;|a,b$/i;maxl:c:12; Pattern :#\\#|;#" := by
    decide +kernel
  have htokens : fileNameCells.map Cell.token =
      [{ test := .regex, values := ["/^ignore;|a,b$/i"] },
        { test := .maxLength, modifiers := [.cut], values := ["12"] },
        { test := .regex, values := ["#\\#|;#"] }] := by decide +kernel
  rw [← htext, (tokenize_join fileNameCells).1, htokens]

/-- A pattern whose closing delimiter is escaped goes on to the end of the rule, over the cells behind it. -/
theorem escaped_closing_swallows :
    Pattern.EscapesEach '/' "a\\".toList ∧
      tokenize (join ";" ["re:/a\\/", "string"]) = [{ test := .regex, values := ["/a\\/;string"] }] ∧
      tokenize (join ";" ["re:/a\\/", "string"]) ≠ [{ test := .regex, values := ["/a\\/"] }, .ofCell {} "string"] := by
  have htext : join ";" ["re:/a\\/", "string"] = String.ofList ("re:".toList ++ "/a\\/;string".toList) := by
    decide +kernel
  have hread := tokenize_whole PatternStash.isCellHead_re (v := "/a\\/;string".toList) (by decide) (by decide) (by decide)
  rw [← htext, String.ofList_toList] at hread
  refine ⟨by decide, hread, ?_⟩
  rw [hread]
  decide

end FieldRules
