import FieldRules.Proofs.Arguments
import FieldRules.Proofs.IgnoreWord
/-!
# Reading an outline

Between the separators of an outline stand its pieces. Where each piece is plain text without a mark, or a cell whose
first value is a pattern, a rule is read piece by piece, whatever the patterns hold and however many stand before them
(`tokenize_of_semicolons`, `tokenize_of_bars`).
-/

namespace FieldRules

open FieldRules.Text

/-! ## Readable pieces -/

/-- What stands behind a pattern in its cell, and the further values of the cell: nothing but blanks up to the end of
the first value, and no mark in the others. -/
inductive EndsValue : List Char → List String → Prop
  | last {blanks : List Char} (hblanks : ∀ c ∈ blanks, isBlank c = true) : EndsValue blanks []
  | more {blanks rest : List Char} {c : Char} (hblanks : ∀ c ∈ blanks, isBlank c = true)
      (hc : c = valueSeparator ∨ c = ',' ∧ valueSeparator ∉ rest) (hrest : occurs patternMark.toList rest = false) :
      EndsValue (blanks ++ c :: rest)
        (((pieces c (String.ofList (trimEndChars rest))).map trim).filter fun v => !v.isEmpty)

/-- A piece of an outline that means the same wherever it stands: text that holds no mark, or a cell whose first value
is a pattern. -/
inductive Readable : List Sign → Prop
  | plain {cs : List Char} (h : occurs patternMark.toList cs = false) : Readable (cs.map .char)
  | pattern {opening tail : List Char} {test : Test} {modifiers : List Modifier} {p : String} {values : List String}
      (hopens : OpensValues opening test modifiers) (htail : EndsValue tail values) :
      Readable (opening.map .char ++ .pattern p :: tail.map .char)

theorem EndsValue.head_not_isSeparator {tail : List Char} {values : List String} (h : EndsValue tail values) :
    ∀ c ∈ tail.head?, PatternStash.isSeparator c = false := by
  have hplain : ∀ {c : Char}, isBlank c = true → PatternStash.isSeparator c = false := by
    intro c hc
    by_contra hs
    rw [PatternStash.not_isBlank_separator (by simpa using hs)] at hc
    cases hc
  cases h with
  | last hblanks => exact fun c hc => hplain (hblanks c (List.mem_of_mem_head? hc))
  | more hblanks hd hrest =>
    rename_i blanks rest d
    intro c hc
    cases blanks with
    | nil =>
      cases hc
      rcases hd with rfl | ⟨rfl, -⟩ <;> rfl
    | cons e blanks =>
      cases hc
      exact hplain (hblanks c (.head _))

/-- No separator stands right behind a pattern of a readable piece. -/
theorem Readable.ne_append {piece : List Sign} (h : Readable piece) {c : Char} (hc : PatternStash.isSeparator c = true)
    (p : String) (a b : List Sign) : piece ≠ a ++ .pattern p :: .char c :: b := by
  intro hpiece
  have hplain : ∀ (cs : List Char) (q : String), Sign.pattern q ∉ cs.map Sign.char := by simp
  cases h with
  | plain =>
    rename_i cs _
    exact hplain cs p (by rw [hpiece]; simp)
  | pattern hopens htail =>
    rename_i opening tail test modifiers q values
    have htail' : tail.map Sign.char = .char c :: b := by
      rcases List.append_eq_append_iff.1 hpiece with ⟨more, -, hmore⟩ | ⟨more, hmore, htail⟩
      · cases more with
        | nil => exact (List.cons.inj hmore).2
        | cons sign more => exact absurd ((List.cons.inj hmore).2 ▸ by simp) (hplain tail p)
      · cases more with
        | nil => exact ((List.cons.inj htail).2).symm
        | cons sign more =>
          have hsign := (List.cons.inj htail).1
          exact absurd (by rw [hmore, ← hsign]; simp) (hplain opening p)
    cases tail with
    | nil => cases htail'
    | cons d tail =>
      obtain rfl : d = c := by simpa using (List.cons.inj htail').1
      rw [htail.head_not_isSeparator d rfl] at hc
      cases hc

/-- The tokens of the text between two separators: none if it is blank. -/
def readCell (stash : PatternStash) (cs : List Char) : List Token :=
  if (trim (String.ofList cs)).isEmpty then [] else [Token.ofCell stash (String.ofList cs)]

/-- The tokens of a piece of an outline by itself. -/
def Sign.tokens (piece : List Sign) : List Token := readCell ⟨Sign.patterns piece⟩ (Sign.shown 0 piece)

/-- A cell without a mark needs no stash. -/
theorem Token.ofCell_of_not_occurs {cell : String} (h : occurs patternMark.toList cell.toList = false)
    (stash : PatternStash) : Token.ofCell stash cell = Token.ofCell {} cell := by
  unfold Token.ofCell
  simp only
  split
  · rfl
  · rename_i name rest hcut
    cases hvalues : (splitArguments (Test.ofName name) rest).2 with
    | none => rfl
    | some values =>
      have hcell : values.toList <:+: cell.toList := by
        have hrest := (isInfix_of_splitArguments hvalues).trans (isInfix_of_cutOnce hcut).2
        rw [toList_trim] at hrest
        exact hrest.trans (trimChars_isInfix _)
      have hrestore : (splitValues values).map stash.restore = (splitValues values).map (PatternStash.restore {}) := by
        refine List.map_congr_left fun v hv => ?_
        have hv := occurs_eq_false_of_isInfix h ((isInfix_of_mem_splitValues hv).trans hcell)
        rw [PatternStash.restore_of_not_occurs hv, PatternStash.restore_of_not_occurs hv]
      simp [hrestore]

/-! ## Cells that hold a pattern -/

/-- A cell that is opened up to its values is not blank, and what begins as marks do are its values. -/
theorem readCell_opens {opening : List Char} {test : Test} {modifiers : List Modifier}
    (hopens : OpensValues opening test modifiers) (stash : PatternStash) (cs : List Char) :
    readCell stash (opening ++ '_' :: cs) =
      [{ test, modifiers, values := (splitValues (String.ofList ('_' :: trimEndChars cs))).map stash.restore }] := by
  have hmem : '_' ∈ (trim (String.ofList (opening ++ '_' :: cs))).toList := by
    rw [toList_trim, String.toList_ofList]
    exact mem_trimChars_of_not_isBlank rfl (by simp)
  have hne : (trim (String.ofList (opening ++ '_' :: cs))).isEmpty = false := by
    rw [String.isEmpty_eq_false_iff]
    intro hempty
    rw [hempty] at hmem
    cases hmem
  unfold readCell
  rw [hne, if_neg Bool.false_ne_true, Token.ofCell_opens hopens]

theorem exists_mark_eq (n : Nat) : ∃ cs, (PatternStash.mark n).toList = '_' :: cs := by
  simp [PatternStash.mark, patternMark]

theorem trim_mark_append (n : Nat) {blanks : List Char} (hblanks : ∀ c ∈ blanks, isBlank c = true) :
    trim (String.ofList ((PatternStash.mark n).toList ++ blanks)) = PatternStash.mark n := by
  obtain ⟨cs, hmark⟩ := exists_mark_eq n
  have hstart : trimStartChars ((PatternStash.mark n).toList ++ blanks) = (PatternStash.mark n).toList ++ blanks := by
    rw [hmark]
    rfl
  rw [trim, String.toList_ofList, trimChars, hstart, trimEndChars_run (PatternStash.trimmed_mark n).last hblanks,
    String.ofList_toList]

/-- A mark before the end of its value is the first value. -/
theorem splitValues_mark {tail : List Char} {values : List String} (h : EndsValue tail values) (n : Nat) :
    splitValues (String.ofList (trimEndChars ((PatternStash.mark n).toList ++ tail))) =
      PatternStash.mark n :: values := by
  have hunit : valueSeparator ∉ (PatternStash.mark n).toList := PatternStash.not_mem_mark rfl rfl (by decide) n
  have hcomma : ',' ∉ (PatternStash.mark n).toList := PatternStash.not_mem_mark rfl rfl (by decide) n
  have hne : (PatternStash.mark n).isEmpty = false := by simp [PatternStash.mark, patternMark]
  cases h with
  | last hblanks =>
    have htrim : trim (PatternStash.mark n) = PatternStash.mark n := trim_eq_self_iff.2 (PatternStash.trimmed_mark n)
    rw [trimEndChars_run (PatternStash.trimmed_mark n).last hblanks, String.ofList_toList]
    simp [splitValues, hunit, pieces_of_not_mem hcomma, htrim, hne]
  | more hblanks hc hrest =>
    rename_i blanks rest c
    have hplain : isBlank c = false ∧ c ∉ (PatternStash.mark n).toList := by
      rcases hc with rfl | ⟨rfl, -⟩
      · exact ⟨rfl, hunit⟩
      · exact ⟨rfl, hcomma⟩
    have hnone : ∀ d ∈ (PatternStash.mark n).toList ++ blanks, (d == c) = false := by
      intro d hd
      rw [beq_eq_false_iff_ne]
      rintro rfl
      rcases List.mem_append.1 hd with hd | hd
      · exact hplain.2 hd
      · rw [hblanks d hd] at hplain
        cases hplain.1
    have hend : trimEndChars ((PatternStash.mark n).toList ++ (blanks ++ c :: rest)) =
        (PatternStash.mark n).toList ++ blanks ++ c :: trimEndChars rest := by
      rw [← List.append_assoc, trimEndChars_append_cons hplain.1]
    -- A comma parts the values only where the sign of lists is nowhere.
    have hsep : (if ((PatternStash.mark n).toList ++ blanks ++ c :: trimEndChars rest).contains valueSeparator
        then valueSeparator else ',') = c := by
      rcases hc with rfl | ⟨rfl, hrest'⟩
      · simp
      · refine if_neg fun hmem => ?_
        rw [List.contains_iff_mem, List.mem_append, List.mem_append, List.mem_cons] at hmem
        rcases hmem with (hmem | hmem) | hmem | hmem
        · exact hunit hmem
        · cases hblanks _ hmem
        · cases hmem
        · exact hrest' ((trimEndChars_isPrefix rest).subset hmem)
    have hpieces : pieces c (String.ofList ((PatternStash.mark n).toList ++ blanks ++ c :: trimEndChars rest)) =
        String.ofList ((PatternStash.mark n).toList ++ blanks) :: pieces c (String.ofList (trimEndChars rest)) := by
      simp only [pieces, String.toList_ofList, piecesBy_append hnone (beq_self_eq_true c), List.map_cons]
    unfold splitValues
    simp only [hend, String.toList_ofList, hsep, hpieces, List.map_cons, trim_mark_append n hblanks]
    rw [List.filter_cons_of_pos (by simp [hne])]

/-- The further values hold no mark, so that they are not replaced. -/
theorem EndsValue.restore_eq {tail : List Char} {values : List String} (h : EndsValue tail values)
    (stash : PatternStash) : values.map stash.restore = values := by
  cases h with
  | last => rfl
  | more hblanks hc hrest =>
    rename_i blanks rest c
    refine (List.map_congr_left fun v hv => ?_).trans (List.map_id _)
    obtain ⟨w, hw, rfl⟩ := List.mem_map.1 (List.mem_filter.1 hv).1
    have hpiece := isInfix_of_mem_pieces hw
    rw [String.toList_ofList] at hpiece
    refine PatternStash.restore_of_not_occurs (occurs_eq_false_of_isInfix hrest ?_) stash
    rw [toList_trim]
    exact (trimChars_isInfix _).trans (hpiece.trans (trimEndChars_isPrefix rest).isInfix)

/-- A cell whose first value is a mark is read with the pattern that it marks. -/
theorem readCell_mark {opening tail : List Char} {test : Test} {modifiers : List Modifier} {values : List String}
    (hopens : OpensValues opening test modifiers) (htail : EndsValue tail values) {stash : PatternStash} {n : Nat}
    {p : String} (hp : stash.patterns[n]? = some p) :
    readCell stash (opening ++ ((PatternStash.mark n).toList ++ tail)) =
      [{ test, modifiers, values := p :: values }] := by
  obtain ⟨cs, hmark⟩ := exists_mark_eq n
  have hvalues := splitValues_mark htail n
  rw [hmark, List.cons_append] at hvalues ⊢
  have hend : trimEndChars ('_' :: (cs ++ tail)) = '_' :: trimEndChars (cs ++ tail) :=
    trimEndChars_append_cons (by rfl) [] (cs ++ tail)
  rw [readCell_opens hopens, ← hend, hvalues, List.map_cons, htail.restore_eq, PatternStash.restore_mark hp]

/-! ## Pieces -/

/-- A readable piece is read by itself, if the stash has its patterns. -/
theorem readCell_shown {piece : List Sign} (h : Readable piece) {stash : PatternStash} {n : Nat}
    (hstash : Sign.patterns piece <+: stash.patterns.drop n) :
    readCell stash (Sign.shown n piece) = Sign.tokens piece := by
  cases h with
  | plain hcs =>
    rename_i cs
    have hcell : occurs patternMark.toList (String.ofList cs).toList = false := by rwa [String.toList_ofList]
    simp only [Sign.tokens, Sign.patterns_map_char, Sign.shown_map_char, readCell, Token.ofCell_of_not_occurs hcell]
  | pattern hopens htail =>
    rename_i opening tail test modifiers p values
    have hpatterns : Sign.patterns (opening.map .char ++ .pattern p :: tail.map .char) = [p] := by
      simp [Sign.patterns_append]
    have hp : stash.patterns[n]? = some p := by
      obtain ⟨more, hmore⟩ := hstash
      have hdrop : (stash.patterns.drop n)[0]? = some p := by rw [← hmore, hpatterns]; rfl
      simpa using hdrop
    simp only [Sign.tokens, hpatterns, Sign.shown_append, Sign.shown_map_char, Sign.patterns_map_char, List.length_nil,
      Nat.add_zero, Sign.shown]
    -- The mark has number `n` in the rule and number 0 in the piece by itself; both mark `p`.
    rw [readCell_mark hopens htail hp, readCell_mark hopens htail (by rfl)]

/-- A separator is shown just where it stands in the outline. -/
theorem mem_shown_iff {c : Char} (hc : PatternStash.isSeparator c = true) {n : Nat} {signs : List Sign} :
    c ∈ Sign.shown n signs ↔ .char c ∈ signs := by
  have hmark : ∀ n, c ∉ (PatternStash.mark n).toList := by
    rcases PatternStash.isSeparator_cases hc with rfl | rfl <;> exact PatternStash.not_mem_mark rfl rfl (by decide)
  induction signs generalizing n with
  | nil => simp [Sign.shown]
  | cons sign signs ih => cases sign <;> simp [Sign.shown, hmark, ih]

/-- What the pieces of an outline show, one after the other; `n` patterns were taken before. -/
def Sign.shownEach (n : Nat) : List (List Sign) → List (List Char)
  | [] => []
  | p :: pieces => Sign.shown n p :: Sign.shownEach (n + (Sign.patterns p).length) pieces

/-- Each piece is shown from where the patterns of the pieces before it end. -/
theorem exists_mem_shownEach {piece : List Sign} {pieces : List (List Sign)} (h : piece ∈ pieces) (n : Nat) :
    ∃ k, Sign.shown (n + k) piece ∈ Sign.shownEach n pieces ∧
      Sign.patterns piece <+: (pieces.flatMap Sign.patterns).drop k := by
  induction pieces generalizing n with
  | nil => cases h
  | cons p pieces ih =>
    rcases List.mem_cons.1 h with rfl | h
    · exact ⟨0, .head _, by simp⟩
    · obtain ⟨k, hshown, hpatterns⟩ := ih h (n + (Sign.patterns p).length)
      refine ⟨(Sign.patterns p).length + k, .tail _ (by rwa [← Nat.add_assoc]), ?_⟩
      rwa [List.flatMap_cons, ← List.drop_drop, List.drop_left]

theorem patterns_intercalate (c : Char) (pieces : List (List Sign)) :
    Sign.patterns ([.char c].intercalate pieces) = pieces.flatMap Sign.patterns := by
  induction pieces with
  | nil => rfl
  | cons p pieces ih =>
    cases pieces with
    | nil => simp
    | cons q pieces => simp [List.intercalate_cons_cons, Sign.patterns_append, ih]

/-- Between separators stands what the pieces show. -/
theorem piecesBy_shown {c : Char} (hc : PatternStash.isSeparator c = true) {pieces : List (List Sign)} (hne : pieces ≠ [])
    (hpieces : ∀ p ∈ pieces, .char c ∉ p) (n : Nat) :
    piecesBy (· == c) (Sign.shown n ([.char c].intercalate pieces)) = Sign.shownEach n pieces := by
  have hnone : ∀ {n : Nat} {p : List Sign}, .char c ∉ p → ∀ d ∈ Sign.shown n p, (d == c) = false := by
    intro n p hp d hd
    rw [beq_eq_false_iff_ne]
    rintro rfl
    exact hp ((mem_shown_iff hc).1 hd)
  induction pieces generalizing n with
  | nil => exact absurd rfl hne
  | cons p pieces ih =>
    obtain ⟨hcp, hpieces⟩ := List.forall_mem_cons.1 hpieces
    cases pieces with
    | nil =>
      rw [List.intercalate_singleton, piecesBy_of_not (hnone hcp)]
      rfl
    | cons q pieces =>
      have hcut : [Sign.char c].intercalate (p :: q :: pieces) =
          p ++ .char c :: [Sign.char c].intercalate (q :: pieces) := by simp [List.intercalate_cons_cons]
      rw [hcut, Sign.shown_append, Sign.shown, piecesBy_append (hnone hcp) (by simp),
        ih (List.cons_ne_nil q pieces) hpieces]
      rfl

/-- Between separators, each readable piece is read by itself. -/
theorem flatMap_readCell {stash : PatternStash} {pieces : List (List Sign)} (hread : ∀ p ∈ pieces, Readable p) {n : Nat}
    (hstash : pieces.flatMap Sign.patterns <+: stash.patterns.drop n) :
    (Sign.shownEach n pieces).flatMap (readCell stash) = pieces.flatMap Sign.tokens := by
  -- The patterns of the pieces before are in front of the stash, and `n` counts them.
  induction pieces generalizing n with
  | nil => rfl
  | cons p pieces ih =>
    obtain ⟨hp, hread⟩ := List.forall_mem_cons.1 hread
    rw [List.flatMap_cons] at hstash
    have hrest : pieces.flatMap Sign.patterns <+: stash.patterns.drop (n + (Sign.patterns p).length) := by
      obtain ⟨more, hmore⟩ := hstash
      rw [← List.drop_drop, ← hmore, List.append_assoc, List.drop_left]
      exact List.prefix_append _ _
    rw [Sign.shownEach, List.flatMap_cons, List.flatMap_cons, ih hread hrest,
      readCell_shown hp ((List.prefix_append _ _).trans hstash)]

/-! ## Rules -/

theorem tokenize_empty : tokenize "" = [] := by
  have hlift : PatternStash.lift {} "" = ({}, "") := PatternStash.lift_of_plain rfl (by simp)
  unfold tokenize
  rw [hlift]
  rfl

theorem tokenize_of_mentionsIgnore {rule : String} (hignore : mentionsIgnore (PatternStash.lift {} rule).2 = true) :
    tokenize rule = [{ test := .ignore }] := by
  unfold tokenize
  simp only [hignore, if_true]

/-- A rule without patterns is cut into cells as it stands. -/
theorem tokenize_of_no_head {rule : String}
    (h : ∀ piece ∈ piecesBy PatternStash.isSeparator rule.toList, PatternStash.cellHead? piece = none) :
    tokenize rule = if mentionsIgnore rule then [{ test := .ignore }] else
      ((pieces (if rule.toList.contains ';' then ';' else '|') rule).filter fun cell => !(trim cell).isEmpty).map
        (Token.ofCell {}) := by
  have hlift : PatternStash.lift {} rule = ({}, rule) := by
    rw [PatternStash.lift_eq_outline, PatternStash.outline_of_no_head h]
    simp
  unfold tokenize
  rw [hlift]

/-- A rule without separators and without a pattern is read as one cell. -/
theorem tokenize_of_one_cell {rule : String} (hhead : PatternStash.cellHead? rule.toList = none)
    (hsep : ∀ c ∈ rule.toList, PatternStash.isSeparator c = false) (hignore : mentionsIgnore rule = false)
    (hblank : (trim rule).isEmpty = false) : tokenize rule = [Token.ofCell {} rule] := by
  have hpieces : pieces (if rule.toList.contains ';' then ';' else '|') rule = [rule] := by
    apply pieces_of_not_mem
    intro hmem
    have hplain := hsep _ hmem
    split at hplain <;> cases hplain
  rw [tokenize_of_no_head (by simpa [piecesBy_of_not hsep] using hhead), hignore, hpieces]
  simp [hblank]

/-- A rule in ASCII without a pattern is read without the tables of characters. -/
theorem tokenize_of_ascii {rule : String} (hascii : rule.toList.all (fun c => c.toNat < 128) = true)
    (h : ∀ piece ∈ piecesBy PatternStash.isSeparator rule.toList, PatternStash.cellHead? piece = none) :
    tokenize rule =
      if (piecesBy (fun c => !isAsciiWord c) rule.toList).any fun word =>
        ["ignore", "ig"].contains (String.ofList (word.map Char.toLower)) then [{ test := .ignore }] else
      ((pieces (if rule.toList.contains ';' then ';' else '|') rule).filter fun cell => !(trim cell).isEmpty).map
        (Token.ofCell {}) := by
  rw [tokenize_of_no_head h, mentionsIgnore_of_ascii hascii]

/-- A rule that is not turned off is read cell by cell. -/
theorem tokenize_eq_flatMap {rule : String} (hignore : mentionsIgnore (PatternStash.lift {} rule).2 = false) :
    tokenize rule = (piecesBy (· == if (PatternStash.lift {} rule).2.toList.contains ';' then ';' else '|')
      (PatternStash.lift {} rule).2.toList).flatMap (readCell (PatternStash.lift {} rule).1) := by
  have hcells : ∀ cells : List (List Char), ((cells.map String.ofList).filter fun cell => !(trim cell).isEmpty).map
      (Token.ofCell (PatternStash.lift {} rule).1) = cells.flatMap (readCell (PatternStash.lift {} rule).1) := by
    intro cells
    induction cells with
    | nil => rfl
    | cons cs cells ih =>
      rw [List.flatMap_cons, ← ih, List.map_cons, List.filter_cons, readCell]
      cases (trim (String.ofList cs)).isEmpty <;> rfl
  unfold tokenize
  simp only [hignore, if_neg Bool.false_ne_true, pieces, hcells]

namespace PatternStash

/-- What separates the cells of a rule, if this is its outline: the semicolon, or the bar where no semicolon stands. -/
def separatorOf (signs : List Sign) : Char := if .char ';' ∈ signs then ';' else '|'

/-- The cells of a rule, as the pieces of its outline. -/
def outlineCells (rule : List Char) : List (List Sign) :=
  (outline rule).splitOn (.char (separatorOf (outline rule)))

/-- The text is a cell of the rule: its outline stands in that of the rule between separators. -/
def HasCell (rule cell : List Char) : Prop := outline cell ∈ outlineCells rule

theorem isSeparator_separatorOf (signs : List Sign) : isSeparator (separatorOf signs) = true := by
  unfold separatorOf
  split <;> rfl

/-- The patterns of the cells are the patterns of the rule. -/
theorem patterns_outlineCells (rule : List Char) :
    (outlineCells rule).flatMap Sign.patterns = Sign.patterns (outline rule) := by
  rw [← patterns_intercalate, outlineCells, List.intercalate_splitOn]

end PatternStash

section
variable {rule : String} (hignore : mentionsIgnore (PatternStash.lift {} rule).2 = false)
include hignore

theorem tokenize_eq_cells : tokenize rule =
    (Sign.shownEach 0 (PatternStash.outlineCells rule.toList)).flatMap (readCell (PatternStash.lift {} rule).1) := by
  have hshown : (PatternStash.lift {} rule).2.toList = Sign.shown 0 (PatternStash.outline rule.toList) := by
    rw [PatternStash.lift_eq_outline, String.toList_ofList]
  have hsep : (if (Sign.shown 0 (PatternStash.outline rule.toList)).contains ';' then ';' else '|') =
      PatternStash.separatorOf (PatternStash.outline rule.toList) := by
    simp only [PatternStash.separatorOf, List.contains_iff_mem, mem_shown_iff (c := ';') rfl]
  have hnone : ∀ p ∈ PatternStash.outlineCells rule.toList,
      .char (PatternStash.separatorOf (PatternStash.outline rule.toList)) ∉ p := by
    intro p hp hmem
    have hplain := not_of_mem_splitOnP hp _ hmem
    simp at hplain
  have hne : PatternStash.outlineCells rule.toList ≠ [] := List.splitOnP_ne_nil _ _
  rw [tokenize_eq_flatMap hignore, hshown, hsep, ← piecesBy_shown (PatternStash.isSeparator_separatorOf _) hne hnone,
    PatternStash.outlineCells, List.intercalate_splitOn]

/-- A rule without separators outside of its patterns is one cell. -/
theorem tokenize_of_no_separator
    (h : ∀ c, PatternStash.isSeparator c = true → .char c ∉ PatternStash.outline rule.toList) :
    tokenize rule = readCell (PatternStash.lift {} rule).1 (Sign.shown 0 (PatternStash.outline rule.toList)) := by
  have hcells : PatternStash.outlineCells rule.toList = [PatternStash.outline rule.toList] :=
    List.splitOn_eq_singleton (h _ (PatternStash.isSeparator_separatorOf _))
  rw [tokenize_eq_cells hignore, hcells]
  simp [Sign.shownEach]

/-- What a cell of a rule is read as is read from the rule. -/
theorem exists_readCell_of_mem {piece : List Sign} (h : piece ∈ PatternStash.outlineCells rule.toList) :
    ∃ n, Sign.patterns piece <+: (PatternStash.lift {} rule).1.patterns.drop n ∧
      ∀ t ∈ readCell (PatternStash.lift {} rule).1 (Sign.shown n piece), t ∈ tokenize rule := by
  obtain ⟨n, hshown, hpatterns⟩ := exists_mem_shownEach h 0
  rw [PatternStash.patterns_outlineCells] at hpatterns
  refine ⟨n, by rwa [PatternStash.lift_eq_outline], fun t ht => ?_⟩
  rw [Nat.zero_add] at hshown
  rw [tokenize_eq_cells hignore]
  exact List.mem_flatMap_of_mem hshown ht

/-- A rule whose cells are readable is read piece by piece. -/
theorem tokenize_of_readable (hread : ∀ p ∈ PatternStash.outlineCells rule.toList, Readable p) :
    tokenize rule = (PatternStash.outlineCells rule.toList).flatMap Sign.tokens := by
  rw [tokenize_eq_cells hignore]
  exact flatMap_readCell hread (by rw [PatternStash.patterns_outlineCells, List.drop_zero, PatternStash.lift_eq_outline])

variable {pieces : List (List Sign)} (hne : pieces ≠ []) (hread : ∀ p ∈ pieces, Readable p)
include hne hread

/-- A rule without semicolons outside of its patterns is read piece by piece between bars. -/
theorem tokenize_of_bars (hpieces : ∀ p ∈ pieces, .char '|' ∉ p)
    (houtline : PatternStash.outline rule.toList = [.char '|'].intercalate pieces)
    (hsep : .char ';' ∉ PatternStash.outline rule.toList) : tokenize rule = pieces.flatMap Sign.tokens := by
  have hcells : PatternStash.outlineCells rule.toList = pieces := by
    rw [PatternStash.outlineCells, PatternStash.separatorOf, if_neg hsep, houtline,
      List.splitOn_intercalate _ hpieces hne]
  rw [tokenize_of_readable hignore (hcells ▸ hread), hcells]

/-- A rule with semicolons outside of its patterns, or with no bars there, is read piece by piece between semicolons. -/
theorem tokenize_of_semicolons (hpieces : ∀ p ∈ pieces, .char ';' ∉ p)
    (houtline : PatternStash.outline rule.toList = [.char ';'].intercalate pieces)
    (hsep : .char ';' ∈ PatternStash.outline rule.toList ∨ .char '|' ∉ PatternStash.outline rule.toList) :
    tokenize rule = pieces.flatMap Sign.tokens := by
  by_cases hsemicolon : .char ';' ∈ PatternStash.outline rule.toList
  · have hcells : PatternStash.outlineCells rule.toList = pieces := by
      rw [PatternStash.outlineCells, PatternStash.separatorOf, if_pos hsemicolon, houtline,
        List.splitOn_intercalate _ hpieces hne]
    rw [tokenize_of_readable hignore (hcells ▸ hread), hcells]
  · -- There is one piece only, so it does not matter which separator is looked for.
    have hone : pieces = [PatternStash.outline rule.toList] := by
      rw [← List.splitOn_intercalate (.char ';') hpieces hne, ← houtline, List.splitOn_eq_singleton hsemicolon]
    refine tokenize_of_bars hignore hne hread (fun p hp => ?_) ?_ hsemicolon
    · rw [hone, List.mem_singleton] at hp
      rw [hp]
      exact hsep.resolve_left hsemicolon
    · rw [hone, List.intercalate_singleton]

end

theorem readable_head {head : List Char} (hhead : PatternStash.IsCellHead head) (p : String) :
    Readable (head.map .char ++ [.pattern p]) := by
  have htail : EndsValue [] [] := .last (List.forall_mem_nil fun c => isBlank c = true)
  simpa using Readable.pattern hhead.opensValues htail

theorem tokens_head {head : List Char} (hhead : PatternStash.IsCellHead head) (p : String) :
    Sign.tokens (head.map .char ++ [.pattern p]) = [{ test := .regex, values := [p] }] := by
  have htail : EndsValue [] [] := .last (List.forall_mem_nil fun c => isBlank c = true)
  simp only [Sign.tokens, Sign.patterns_append, Sign.patterns_map_char, Sign.patterns_pattern, Sign.patterns_nil,
    List.nil_append, Sign.shown_append, Sign.shown_map_char, Sign.shown]
  exact readCell_mark hhead.opensValues htail rfl

/-- A rule of one head and its pattern is read as a test of the pattern. -/
theorem tokenize_of_outline_head {rule : String} {head : List Char} (hhead : PatternStash.IsCellHead head) {p : String}
    (houtline : PatternStash.outline rule.toList = head.map .char ++ [.pattern p]) :
    tokenize rule = [{ test := .regex, values := [p] }] := by
  have hnone : ∀ {c : Char}, PatternStash.isSeparator c = true → .char c ∉ head.map .char ++ [Sign.pattern p] :=
    fun hc => PatternStash.char_not_mem_head hhead hc _
  have hignore : mentionsIgnore (PatternStash.lift {} rule).2 = false := by
    rw [PatternStash.lift_eq_outline, houtline, Sign.shown_append, Sign.shown_map_char, Sign.shown, Sign.shown,
      List.append_nil]
    exact mentionsIgnore_head_mark hhead _
  have hread := tokenize_of_semicolons hignore (List.cons_ne_nil _ [])
    (List.forall_mem_singleton.2 (readable_head hhead p)) (by simpa using hnone rfl) (by simp [houtline]) (.inr (by simpa [houtline] using hnone rfl))
  rw [hread, List.flatMap_singleton, tokens_head hhead]

/-- A rule of one cell is read as a test of its pattern, if the pattern is all that stands behind the head. -/
theorem tokenize_whole {head v : List Char} (hhead : PatternStash.IsCellHead head) (hstart : trimStartChars v = v)
    (hend : trimEndChars v = v) (hcut : PatternStash.cutPattern v = (v, [])) :
    tokenize (String.ofList (head ++ v)) = [{ test := .regex, values := [String.ofList v] }] := by
  have hopen : PatternStash.openSigns (head ++ v) = (head.map .char ++ [.pattern (String.ofList v)], []) := by
    rw [PatternStash.openSigns_head hhead, hstart, hcut, hend]
  refine tokenize_of_outline_head hhead ?_
  rw [String.toList_ofList, PatternStash.outline_of_nil (by simp [hopen]), hopen]
  simp

end FieldRules
