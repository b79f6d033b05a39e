import FieldRules.Proofs.CleanText
import FieldRules.Proofs.WordSigns
import Mathlib.Data.List.Basic
/-!
# Reading a rule of one cell

`tokenize_named` says what a rule is read as that names one test and gives it one argument: a text without the signs
that separate cells and values. The test may be any that takes its argument directly. `tokenize_modified` says the same
of a rule that names a modifier before the argument.
-/

namespace FieldRules

/-! ## Cutting at a sign -/

namespace Text

section
variable {p : Char → Bool} {cs : List Char}

theorem piecesBy_of_not (h : ∀ c ∈ cs, p c = false) : piecesBy p cs = [cs] := by
  induction cs with
  | nil => rfl
  | cons c cs ih =>
    obtain ⟨hc, hcs⟩ := List.forall_mem_cons.1 h
    simp [piecesBy, hc, ih hcs]

theorem piecesBy_append (h : ∀ c ∈ cs, p c = false) {sep : Char} (hsep : p sep = true) (rest : List Char) :
    piecesBy p (cs ++ sep :: rest) = cs :: piecesBy p rest := by
  induction cs with
  | nil => simp [piecesBy, hsep]
  | cons c cs ih =>
    obtain ⟨hc, hcs⟩ := List.forall_mem_cons.1 h
    simp [piecesBy, hc, ih hcs]

theorem cutAt_append (h : ∀ c ∈ cs, p c = false) {sep : Char} (hsep : p sep = true) (rest : List Char) :
    cutAt p (cs ++ sep :: rest) = some (cs, rest) := by
  induction cs with
  | nil => simp [cutAt, hsep]
  | cons c cs ih =>
    obtain ⟨hc, hcs⟩ := List.forall_mem_cons.1 h
    simp [cutAt, hc, ih hcs]

end

theorem pieces_of_not_mem {sep : Char} {s : String} (h : sep ∉ s.toList) : pieces sep s = [s] := by
  have hnone : ∀ c ∈ s.toList, (c == sep) = false := fun c hc => by simpa using fun he : c = sep => h (he ▸ hc)
  rw [pieces, piecesBy_of_not hnone, List.map_singleton, String.ofList_toList]

theorem cutOnce_append {sep : Char} {s : String} (h : sep ∉ s.toList) (rest : String) :
    cutOnce sep (s ++ String.singleton sep ++ rest) = some (s, rest) := by
  have hnone : ∀ c ∈ s.toList, (c == sep) = false := fun c hc => by simpa using fun he : c = sep => h (he ▸ hc)
  have hlist : (s ++ String.singleton sep ++ rest).toList = s.toList ++ sep :: rest.toList := by simp
  rw [cutOnce, hlist, cutAt_append hnone (by simp)]
  simp

theorem trimChars_of_trimmed {cs : List Char} (h : Trimmed cs) : trimChars cs = cs := by
  have hstart : trimStartChars cs = cs := by
    cases cs with
    | nil => rfl
    | cons c cs => simp [trimStartChars, h.first c rfl]
  have hend : cs.reverse.dropWhile isBlank = cs.reverse := by
    cases hr : cs.reverse with
    | nil => rfl
    | cons c rs =>
      have hlast : cs.getLast? = some c := by rw [← List.head?_reverse, hr]; rfl
      simp [h.last c hlast]
  rw [trimChars, hstart, trimEndChars, hend, List.reverse_reverse]

theorem trim_eq_self_iff {s : String} : trim s = s ↔ Trimmed s.toList := by
  constructor
  · intro h
    rw [← h, toList_trim]
    exact trimmed_trimChars _
  · intro h
    rw [trim, trimChars_of_trimmed h, String.ofList_toList]

theorem trim_trim (s : String) : trim (trim s) = trim s := by
  rw [trim_eq_self_iff, toList_trim]
  exact trimmed_trimChars _

theorem not_isBlank_of_isAsciiLetter {c : Char} (h : isAsciiLetter c = true) : isBlank c = false := by
  have hc := isAsciiLetter_iff.1 h
  simp only [isBlank, Bool.or_eq_false_iff, Bool.and_eq_false_iff, decide_eq_false_iff_not, beq_eq_false_iff_ne]
  omega

end Text

/-! ## Names and arguments -/

/-- A name that may stand in a cell: letters that make a word other than `ignore`, and no name of the test of
patterns. -/
structure PlainName (name : String) : Prop where
  letters : name.toList.all Text.isAsciiLetter = true
  no_ignore : ["ignore", "ig"].contains (Text.asciiLower name) = false
  no_pattern : PatternStash.cellNames.contains (Text.asciiLower name) = false

theorem PlainName.isAsciiLetter {name : String} (hn : PlainName name) :
    ∀ c ∈ name.toList, Text.isAsciiLetter c = true :=
  List.all_eq_true.1 hn.letters

theorem PlainName.not_mem {name : String} (hn : PlainName name) {c : Char} (hc : Text.isAsciiLetter c = false) :
    c ∉ name.toList := by
  intro hm
  rw [hn.isAsciiLetter c hm] at hc
  cases hc

/-- A text that may stand in a cell as the one argument of a test. -/
structure PlainArgument (x : String) : Prop where
  ne_empty : x ≠ ""
  trimmed : Text.trim x = x
  no_comma : ',' ∉ x.toList
  no_semicolon : ';' ∉ x.toList
  no_bar : '|' ∉ x.toList
  no_unit : valueSeparator ∉ x.toList
  no_ignore : mentionsIgnore x = false

/-- A text that may stand in a cell behind the name of its test: its values, with whatever parts them. -/
structure CellArgument (x : String) : Prop where
  ne_empty : x ≠ ""
  trimmed : Text.trim x = x
  no_semicolon : ';' ∉ x.toList
  no_bar : '|' ∉ x.toList

theorem PlainArgument.cellArgument {x : String} (hx : PlainArgument x) : CellArgument x :=
  ⟨hx.ne_empty, hx.trimmed, hx.no_semicolon, hx.no_bar⟩

/-- The cell of a test and its argument. -/
def namedCell (name x : String) : String := name ++ ":" ++ x

theorem toList_namedCell (name x : String) : (namedCell name x).toList = name.toList ++ ':' :: x.toList := by
  simp [namedCell]

/-- A sign that is no letter stands in a cell only if it is the colon or stands in the argument. -/
theorem not_mem_namedCell {name x : String} (hn : PlainName name) {c : Char} (hletter : Text.isAsciiLetter c = false)
    (hcolon : c ≠ ':') (hx : c ∉ x.toList) : c ∉ (namedCell name x).toList := by
  rw [toList_namedCell, List.mem_append, List.mem_cons]
  rintro (hm | hm | hm)
  · exact hn.not_mem hletter hm
  · exact hcolon hm
  · exact hx hm

namespace PatternStash

open FieldRules.Text

theorem cellHead?_named {name : String} (hn : PlainName name) (rest : List Char) :
    cellHead? (name.toList ++ ':' :: rest) = none := by
  have hbody : (name.toList ++ ':' :: rest).dropWhile isBlank = name.toList ++ ':' :: rest := by
    cases hl : name.toList with
    | nil => rfl
    | cons c cs =>
      have hc := not_isBlank_of_isAsciiLetter (hn.isAsciiLetter c (hl ▸ List.mem_cons_self))
      simp [hc]
  have hcolon : (':' :: rest).takeWhile isAsciiLetter = [] ∧
      (':' :: rest).dropWhile isAsciiLetter = ':' :: rest ∧ (':' :: rest).dropWhile isBlank = ':' :: rest :=
    ⟨rfl, rfl, rfl⟩
  have hpattern : cellNames.contains (asciiLower (String.ofList name.toList)) = false := by
    rw [String.ofList_toList]
    exact hn.no_pattern
  unfold cellHead?
  simp only [hbody, List.takeWhile_append_of_pos hn.isAsciiLetter,
    List.dropWhile_append_of_pos hn.isAsciiLetter, hcolon, List.append_nil, hpattern, Bool.false_eq_true, if_false]

theorem lift_of_plain {rule : String} (hhead : cellHead? rule.toList = none)
    (hsep : ∀ c ∈ rule.toList, isSeparator c = false) : lift {} rule = ({}, rule) := by
  have hopen : openCell 0 rule.toList = ⟨[], none, rule.toList⟩ := by
    unfold openCell
    rw [hhead]
  have hdrop : rule.toList.dropWhile (fun c => !isSeparator c) = [] :=
    List.dropWhile_eq_nil_iff.2 fun c hc => by simp [hsep c hc]
  have hlift : liftFrom 0 rule.toList = (rule.toList, []) := by
    rw [liftFrom]
    simp only [hopen]
    split
    · rfl
    · rename_i h
      rw [hopen, hdrop] at h
      cases h
  unfold lift
  simp only [List.length_nil, hlift, List.append_nil, String.ofList_toList]

theorem restore_empty (value : String) : restore {} value = value := by
  simp [restore]

end PatternStash

theorem mentionsIgnore_named {name x : String} (hn : PlainName name) :
    mentionsIgnore (namedCell name x) = mentionsIgnore x := by
  have hwords : ∀ c ∈ name.toList, (!Unicode.isWord c) = false := by
    intro c hc
    simp [Text.isWord_of_isAsciiLetter (hn.isAsciiLetter c hc)]
  have hcolon : (!Unicode.isWord ':') = true := by rw [Text.not_isWord_of_wordGaps rfl]; rfl
  rw [mentionsIgnore, toList_namedCell, Text.piecesBy_append hwords hcolon, List.any_cons]
  have hname := hn.no_ignore
  rw [Text.asciiLower] at hname
  rw [hname, Bool.false_or, mentionsIgnore]

section
variable {name x : String} {test : Test} (hn : PlainName name) (hx : CellArgument x)
include hn hx

theorem trimmed_named : Text.Trimmed (namedCell name x).toList := by
  have htrim := Text.trim_eq_self_iff.1 hx.trimmed
  rw [toList_namedCell]
  constructor
  · intro c hc
    cases hl : name.toList with
    | nil =>
      rw [hl] at hc
      cases hc
      rfl
    | cons d ds =>
      rw [hl] at hc
      cases hc
      exact Text.not_isBlank_of_isAsciiLetter (hn.isAsciiLetter c (hl ▸ List.mem_cons_self))
  · intro c hc
    have hne : x.toList ≠ [] := by simpa using hx.ne_empty
    rw [List.getLast?_append_of_ne_nil _ (List.cons_ne_nil _ _), List.getLast?_cons_of_ne_nil hne] at hc
    exact htrim.last c hc

theorem trim_named : Text.trim (namedCell name x) = namedCell name x :=
  Text.trim_eq_self_iff.2 (trimmed_named hn hx)

theorem isEmpty_trim_named : (Text.trim (namedCell name x)).isEmpty = false := by
  rw [trim_named hn hx]
  simp [namedCell]

section
variable {words values : Option String} (htest : Test.ofName name = test)
  (harguments : splitArguments test x = (words, values))
include htest harguments

theorem ofCell_named : Token.ofCell {} (namedCell name x) =
    { test, modifiers := (words.map (splitModifiers test)).getD [], values := (values.map splitValues).getD [] } := by
  have hcolon : ':' ∉ name.toList := hn.not_mem rfl
  have hcut : Text.cutOnce ':' (namedCell name x) = some (name, x) := Text.cutOnce_append hcolon x
  have hrestore : ∀ vs : List String, vs.map (PatternStash.restore {}) = vs :=
    List.map_id'' PatternStash.restore_empty
  unfold Token.ofCell
  simp only [trim_named hn hx, hcut, htest, harguments, hrestore]
  cases words <;> cases values <;> rfl

/-- A rule of one test is read as that test with the arguments that its cell names, or as turned off. -/
theorem tokenize_cell : tokenize (namedCell name x) = if mentionsIgnore x then [{ test := .ignore }] else
    [{ test, modifiers := (words.map (splitModifiers test)).getD [], values := (values.map splitValues).getD [] }] := by
  have hsemicolon : ';' ∉ (namedCell name x).toList := not_mem_namedCell hn rfl (by decide) hx.no_semicolon
  have hbar : '|' ∉ (namedCell name x).toList := not_mem_namedCell hn rfl (by decide) hx.no_bar
  have hsep : ∀ c ∈ (namedCell name x).toList, PatternStash.isSeparator c = false := by
    intro c hc
    have hne : c ≠ ';' ∧ c ≠ '|' := ⟨fun he => hsemicolon (he ▸ hc), fun he => hbar (he ▸ hc)⟩
    simp [PatternStash.isSeparator, hne]
  have hhead : PatternStash.cellHead? (namedCell name x).toList = none := by
    rw [toList_namedCell]
    exact PatternStash.cellHead?_named hn _
  unfold tokenize
  simp [PatternStash.lift_of_plain hhead hsep, mentionsIgnore_named hn, hsemicolon, Text.pieces_of_not_mem hbar,
    isEmpty_trim_named hn hx, ofCell_named hn hx htest harguments]

end

/-- A rule of one test that takes its values directly is read as that, or as turned off. -/
theorem tokenize_argument (htest : Test.ofName name = test) (hvalue : test.hasDirectValue = true)
    (hplain : ∀ head tail, Text.cutOnce ':' x = some (head, tail) → namesModifiers test head = false) :
    tokenize (namedCell name x) =
      if mentionsIgnore x then [{ test := .ignore }] else [{ test, values := splitValues x }] := by
  have harguments : splitArguments test x = (none, some x) := by
    unfold splitArguments
    split
    · rename_i head tail h
      simp [hvalue, hplain head tail h]
    · simp [hvalue]
  exact tokenize_cell hn hx htest harguments

end

theorem splitValues_plain {x : String} (hx : PlainArgument x) : splitValues x = [x] := by
  simp [splitValues, hx.no_unit, Text.pieces_of_not_mem hx.no_comma, hx.trimmed, hx.ne_empty]

/-- A rule of one test with one argument is read as that. -/
theorem tokenize_named {name x : String} {test : Test} (hn : PlainName name) (hx : PlainArgument x)
    (htest : Test.ofName name = test) (hvalue : test.hasDirectValue = true)
    (hplain : ∀ head tail, Text.cutOnce ':' x = some (head, tail) → namesModifiers test head = false) :
    tokenize (namedCell name x) = [{ test, values := [x] }] := by
  rw [tokenize_argument hn hx.cellArgument htest hvalue hplain, hx.no_ignore, splitValues_plain hx]
  rfl

/-- A rule of one test with one modifier and one argument is read as that. -/
theorem tokenize_modified {name word x : String} {test : Test} (hn : PlainName name) (hw : PlainName word)
    (hx : PlainArgument x) (htest : Test.ofName name = test) (hnames : namesModifiers test word = true) :
    tokenize (namedCell name (namedCell word x)) = [{ test, modifiers := splitModifiers test word, values := [x] }] := by
  have hcell : CellArgument (namedCell word x) := {
    ne_empty := by simp [namedCell]
    trimmed := trim_named hw hx.cellArgument
    no_semicolon := not_mem_namedCell hw rfl (by decide) hx.no_semicolon
    no_bar := not_mem_namedCell hw rfl (by decide) hx.no_bar }
  have hcut : Text.cutOnce ':' (namedCell word x) = some (word, x) := Text.cutOnce_append (hw.not_mem rfl) x
  have harguments : splitArguments test (namedCell word x) = (some word, some x) := by
    unfold splitArguments
    simp [hcut, hnames]
  rw [tokenize_cell hn hcell htest harguments, mentionsIgnore_named hw, hx.no_ignore]
  simp [splitValues_plain hx]

end FieldRules
