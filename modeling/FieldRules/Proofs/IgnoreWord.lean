import FieldRules.Proofs.Outline
/-!
# The word that turns a rule off

The word is looked for in the lifted text of a rule. No mark completes it, so that lifting brings in no mention that the
rule did not have (`mentionsIgnore_of_shown`); and no head of a cell with a pattern mentions it
(`mentionsIgnore_head_mark`). A cell that names the test `ignore` mentions it, so a rule is turned off as a whole or not
at all (`tokenize_of_ignore_mem`).
-/

namespace FieldRules

open FieldRules.Text

/-! ## Marks -/

/-- A sign of no word parts the text for the search of the word that turns a rule off. -/
theorem mentionsIgnore_append_cons {c : Char} (hc : Unicode.isWord c = false) (cs rest : List Char) :
    mentionsIgnore (String.ofList (cs ++ c :: rest)) =
      (mentionsIgnore (String.ofList cs) || mentionsIgnore (String.ofList rest)) := by
  have hpieces : piecesBy (fun c => !Unicode.isWord c) (cs ++ c :: rest) = _ :=
    piecesBy_append_cons (by simp [hc]) cs rest
  simp [mentionsIgnore, hpieces]

/-- Joined texts mention the word if one of them does. -/
theorem mentionsIgnore_join {sep : Char} (hsep : Unicode.isWord sep = false) (xs : List String) :
    mentionsIgnore (join (String.singleton sep) xs) = xs.any mentionsIgnore := by
  induction xs with
  | nil => rfl
  | cons x xs ih =>
    cases xs with
    | nil => simp
    | cons y ys =>
      have htext : join (String.singleton sep) (x :: y :: ys) =
          String.ofList (x.toList ++ sep :: (join (String.singleton sep) (y :: ys)).toList) := by
        simp [← String.toList_inj, List.intercalate_cons_cons]
      rw [List.any_cons, ← ih, htext, mentionsIgnore_append_cons hsep, String.ofList_toList, String.ofList_toList]

theorem isWord_of_mem_mark {n : Nat} {c : Char} (h : c ∈ (PatternStash.mark n).toList) : Unicode.isWord c = true := by
  rcases PatternStash.mem_mark h with h | h | rfl
  · exact isWord_of_isAsciiLetter h
  · exact isWord_of_isAsciiDigit h
  · exact isWord_underscore

/-- A mark is part of a longer word, so that word lies behind it. -/
theorem mentionsIgnore_of_mark {n : Nat} {rest : List Char}
    (h : mentionsIgnore (String.ofList ((PatternStash.mark n).toList ++ rest)) = true) (before : List Char) :
    mentionsIgnore (String.ofList (before ++ rest)) = true := by
  -- The word that the mark is in begins with the mark, and so is not the one that turns a rule off.
  have hrest := List.takeWhile_append_dropWhile (p := Unicode.isWord) (l := rest)
  have hword : mentionsIgnore (String.ofList ((PatternStash.mark n).toList ++ rest.takeWhile Unicode.isWord)) = false := by
    have hall : ∀ c ∈ (PatternStash.mark n).toList ++ rest.takeWhile Unicode.isWord, (!Unicode.isWord c) = false := by
      intro c hc
      rcases List.mem_append.1 hc with hc | hc
      · simp [isWord_of_mem_mark hc]
      · simp [List.mem_takeWhile_imp hc]
    rw [mentionsIgnore, String.toList_ofList, piecesBy_of_not hall]
    simp [PatternStash.mark, patternMark, ← String.toList_inj]
  cases htail : rest.dropWhile Unicode.isWord with
  | nil =>
    rw [htail, List.append_nil] at hrest
    rw [hrest, h] at hword
    cases hword
  | cons c tail =>
    have hc : Unicode.isWord c = false := by
      have hhead := List.head?_dropWhile_not Unicode.isWord rest
      rwa [htail] at hhead
    rw [← hrest, htail, ← List.append_assoc, mentionsIgnore_append_cons hc] at h ⊢
    rw [hword, Bool.false_or] at h
    rw [h, Bool.or_true]

namespace PatternStash

theorem IsCellHead.exists_append {head : List Char} (h : IsCellHead head) : ∃ name, head = name ++ [':'] := by
  obtain ⟨-, -, -, -⟩ := h
  exact ⟨_, rfl⟩

/-- What a cell shows before some text mentions the word only if that text does behind what the cell was. -/
theorem mentionsIgnore_openSigns (cs : List Char) : ∃ before, cs = before ++ (openSigns cs).2 ∧
    ∀ n rest, mentionsIgnore (String.ofList (Sign.shown n (openSigns cs).1 ++ rest)) = true →
      mentionsIgnore (String.ofList (before ++ rest)) = true := by
  cases hcell : cellHead? cs with
  | none => exact ⟨[], by simp [openSigns, hcell], fun n rest h => by simpa [openSigns, hcell, Sign.shown] using h⟩
  | some cell =>
    obtain ⟨head, after⟩ := cell
    obtain ⟨hhead, rfl⟩ := cellHead?_eq_some_iff.1 hcell
    obtain ⟨name, rfl⟩ := hhead.exists_append
    have hcolon : Unicode.isWord ':' = false := not_isWord_of_wordGaps rfl
    have hafter : after = after.takeWhile isBlank ++
        ((cutPattern (trimStartChars after)).1 ++ (cutPattern (trimStartChars after)).2) := by
      rw [cutPattern_append_eq, trimStartChars, List.takeWhile_append_dropWhile]
    refine ⟨name ++ ':' :: (after.takeWhile isBlank ++ (cutPattern (trimStartChars after)).1), ?_, fun n rest h => ?_⟩
    · simp only [openSigns, hcell]
      conv_lhs => rw [hafter]
      simp
    · simp only [openSigns, hcell, Sign.shown_append, Sign.shown_map_char, Sign.shown, List.append_nil] at h
      rw [List.append_assoc, List.append_assoc, List.singleton_append, mentionsIgnore_append_cons hcolon] at h
      rw [List.append_assoc, List.cons_append, mentionsIgnore_append_cons hcolon]
      rcases Bool.or_eq_true_iff.1 h with h | h
      · rw [h, Bool.true_or]
      · rw [mentionsIgnore_of_mark h, Bool.or_true]

/-- Lifting brings in no mention of the word that turns a rule off. -/
theorem mentionsIgnore_of_shown {n : Nat} {cs : List Char}
    (h : mentionsIgnore (String.ofList (Sign.shown n (outline cs))) = true) : mentionsIgnore (String.ofList cs) = true := by
  induction cs using outline.induct generalizing n with
  | case1 cs hrest =>
    obtain ⟨before, hcs, hbefore⟩ := mentionsIgnore_openSigns cs
    rw [outline_of_nil hrest, Sign.shown_append, Sign.shown_map_char] at h
    rw [hcs]
    exact hbefore n _ h
  | case2 cs separator rest hrest ih =>
    obtain ⟨before, hcs, hbefore⟩ := mentionsIgnore_openSigns cs
    have hseparator : Unicode.isWord separator = false := by
      have hs := List.head?_dropWhile_not (fun c => !isSeparator c) (openSigns cs).2
      rw [hrest] at hs
      rcases isSeparator_cases (by simpa using hs) with rfl | rfl <;> exact not_isWord_of_wordGaps rfl
    rw [outline_of_cons hrest, Sign.shown_append, Sign.shown_append, Sign.shown_map_char, Sign.shown,
      mentionsIgnore_append_cons hseparator] at h
    rw [hcs, ← List.takeWhile_append_dropWhile (p := fun c => !isSeparator c) (l := (openSigns cs).2), hrest,
      ← List.append_assoc, mentionsIgnore_append_cons hseparator]
    rcases Bool.or_eq_true_iff.1 h with h | h
    · rw [hbefore n _ h, Bool.true_or]
    · rw [ih h, Bool.or_true]

end PatternStash

/-- What does not turn a rule off before its patterns are taken out does not after. -/
theorem mentionsIgnore_lift {rule : String} (h : mentionsIgnore rule = false) :
    mentionsIgnore (PatternStash.lift {} rule).2 = false := by
  rw [Bool.eq_false_iff] at h ⊢
  intro hlifted
  rw [PatternStash.lift_eq_outline] at hlifted
  exact h (by simpa using PatternStash.mentionsIgnore_of_shown hlifted)

/-! ## Heads -/

/-- The word that turns a rule off begins with the one letter that no name of the test of patterns has. -/
theorem mentionsIgnore_of_forall {cs : List Char} (h : ∀ c ∈ cs, c.toLower ≠ 'i') :
    mentionsIgnore (String.ofList cs) = false := by
  rw [Bool.eq_false_iff]
  intro hmention
  rw [mentionsIgnore, String.toList_ofList, List.any_eq_true] at hmention
  obtain ⟨word, hword, hname⟩ := hmention
  have hi : 'i' ∈ word.map Char.toLower := by
    rw [← String.toList_ofList (l := word.map Char.toLower)]
    rcases by simpa using hname with he | he <;> rw [he] <;> decide
  obtain ⟨c, hc, he⟩ := List.mem_map.1 hi
  exact h c ((isInfix_of_mem_piecesBy hword).subset hc) he

theorem isAsciiLetter_of_toLower {c : Char} (h : isAsciiLetter c.toLower = true) : isAsciiLetter c = true := by
  unfold Char.toLower at h
  split at h
  · rename_i hupper
    have hrange : 65 ≤ c.val ∧ c.val ≤ 90 := hupper
    simp [isAsciiLetter, Char.le_def, hrange]
  · exact h

theorem PatternStash.IsCellHead.no_i {head : List Char} (h : PatternStash.IsCellHead head) :
    ∀ c ∈ head, c.toLower ≠ 'i' := by
  obtain ⟨hblanks, hletters, hgap, hname⟩ := h
  rename_i blanks name gap
  have hnames : ∀ s ∈ PatternStash.cellNames, 'i' ∉ s.toList := by decide
  have hblank : ∀ c, isBlank c = true → c.toLower ≠ 'i' := by
    intro c hc hi
    rw [not_isBlank_of_isAsciiLetter (isAsciiLetter_of_toLower (hi ▸ by decide))] at hc
    cases hc
  intro c hc hi
  simp only [List.mem_append, List.mem_singleton] at hc
  rcases hc with ((hc | hc) | hc) | hc
  · exact hblank c (hblanks c hc) hi
  · refine hnames _ (List.contains_iff_mem.1 hname) ?_
    rw [toList_asciiLower, String.toList_ofList, ← hi]
    exact List.mem_map_of_mem hc
  · exact hblank c (hgap c hc) hi
  · rw [hc] at hi
    cases hi

theorem mentionsIgnore_mark (n : Nat) : mentionsIgnore (String.ofList (PatternStash.mark n).toList) = false := by
  rw [Bool.eq_false_iff]
  intro h
  rw [← List.append_nil (PatternStash.mark n).toList] at h
  have hnone := mentionsIgnore_of_mark h []
  cases hnone

theorem mentionsIgnore_head_mark {head : List Char} (hhead : PatternStash.IsCellHead head) (n : Nat) :
    mentionsIgnore (String.ofList (head ++ (PatternStash.mark n).toList)) = false := by
  obtain ⟨name, hname⟩ := hhead.exists_append
  have hno : mentionsIgnore (String.ofList name) = false :=
    mentionsIgnore_of_forall fun c hc => hhead.no_i c (hname ▸ List.mem_append_left _ hc)
  rw [hname, List.append_assoc, List.singleton_append, mentionsIgnore_append_cons (not_isWord_of_wordGaps rfl), hno,
    mentionsIgnore_mark, Bool.or_false]

/-! ## Cells that name the test -/

theorem mentionsIgnore_append_of_left {xs ys : List Char} (hys : ∀ c ∈ ys.head?, Unicode.isWord c = false)
    (h : mentionsIgnore (String.ofList xs) = true) : mentionsIgnore (String.ofList (xs ++ ys)) = true := by
  cases ys with
  | nil => rwa [List.append_nil]
  | cons c ys => rw [mentionsIgnore_append_cons (hys c rfl), h, Bool.true_or]

theorem mentionsIgnore_append_of_right {xs ys : List Char} (hxs : ∀ c ∈ xs, Unicode.isWord c = false)
    (h : mentionsIgnore (String.ofList ys) = true) : mentionsIgnore (String.ofList (xs ++ ys)) = true := by
  induction xs with
  | nil => exact h
  | cons c xs ih =>
    obtain ⟨hc, hxs⟩ := List.forall_mem_cons.1 hxs
    rw [← List.nil_append (c :: xs ++ ys), List.cons_append, mentionsIgnore_append_cons hc, ih hxs, Bool.or_true]

/-- Outer blanks hide no mention of the word. -/
theorem mentionsIgnore_of_trim {s : String} (h : mentionsIgnore (trim s) = true) : mentionsIgnore s = true := by
  have hstart : s.toList = s.toList.takeWhile isBlank ++ trimStartChars s.toList :=
    (List.takeWhile_append_dropWhile).symm
  obtain ⟨trail, hend, hblank⟩ := exists_trimEndChars (trimStartChars s.toList)
  rw [← String.ofList_toList (s := s), hstart]
  refine mentionsIgnore_append_of_right (fun c hc => not_isWord_of_isBlank (List.mem_takeWhile_imp hc)) ?_
  rw [hend]
  exact mentionsIgnore_append_of_left (fun c hc => not_isWord_of_isBlank (hblank c (List.mem_of_mem_head? hc))) h

/-- The two words turn a rule off in any spelling that names the test. -/
theorem mentionsIgnore_of_folded {word : String}
    (h : ["ig", "ignore"].contains (String.ofList (word.toList.map foldAscii)) = true) : mentionsIgnore word = true := by
  have hletters : ∀ c ∈ word.toList, foldAscii c ∈ "ignore".toList := by
    intro c hc
    have hmem := List.mem_map_of_mem (f := foldAscii) hc
    rw [← String.toList_ofList (l := word.toList.map foldAscii)] at hmem
    have hword : "ig".toList ⊆ "ignore".toList := by decide
    rcases by simpa using h with he | he
    · exact hword (he ▸ hmem)
    · exact he ▸ hmem
  have hfold : ∀ c ∈ word.toList, foldAscii c = c.toLower := by
    intro c hc
    have hletter := hletters c hc
    unfold foldAscii at hletter ⊢
    split at hletter
    · exact absurd hletter (by decide)
    · rename_i hs
      rw [if_neg hs]
      split at hletter
      · exact absurd hletter (by decide)
      · rename_i hk
        rw [if_neg hk]
  have hword : ∀ c ∈ word.toList, (!Unicode.isWord c) = false := by
    intro c hc
    have hall : "ignore".toList.all isAsciiLetter = true := by decide
    have hmem : c.toLower ∈ "ignore".toList := hfold c hc ▸ hletters c hc
    have hletter := isAsciiLetter_of_toLower (List.all_eq_true.1 hall _ hmem)
    simp [isWord_of_isAsciiLetter hletter]
  rw [mentionsIgnore, piecesBy_of_not hword, List.any_cons, ← List.map_congr_left hfold]
  simpa [or_comm] using h

/-- A name that reads as the test `ignore` mentions the word. -/
theorem mentionsIgnore_of_ofName {raw : String} (h : Test.ofName raw = .ignore) : mentionsIgnore raw = true := by
  have hspellings : ∀ e ∈ Test.spellings, e.1 = .ignore → e.2 = ["ig", "ignore"] := by decide
  have hbeginnings : ∀ e ∈ Test.beginnings, e.1 ≠ .ignore := by decide
  unfold Test.ofName at h
  simp only at h
  split at h
  · rename_i test names hfind
    have hcontains := List.find?_some hfind
    rw [hspellings _ (List.mem_of_find?_eq_some hfind) h] at hcontains
    exact mentionsIgnore_of_trim (mentionsIgnore_of_folded hcontains)
  · split at h
    · rename_i test starts hfind
      exact absurd h (hbeginnings _ (List.mem_of_find?_eq_some hfind))
    · cases h

/-- So does a cell whose name reads so. -/
theorem mentionsIgnore_of_ofCell {stash : PatternStash} {cell : String} (h : (Token.ofCell stash cell).test = .ignore) :
    mentionsIgnore cell = true := by
  refine mentionsIgnore_of_trim ?_
  unfold Token.ofCell at h
  generalize trim cell = cell at h ⊢
  cases hcut : cutOnce ':' cell with
  | none =>
    simp only [hcut] at h
    exact mentionsIgnore_of_ofName h
  | some parts =>
    simp only [hcut] at h
    have hname : mentionsIgnore parts.1 = true := mentionsIgnore_of_ofName h
    rw [← String.ofList_toList (s := cell), eq_append_of_cutOnce hcut]
    refine mentionsIgnore_append_of_left ?_ (by rwa [String.ofList_toList])
    rintro c ⟨⟩
    exact not_isWord_of_wordGaps rfl

/-- A rule is turned off as a whole or not at all. -/
theorem tokenize_of_ignore_mem {rule : String} {t : Token} (ht : t ∈ tokenize rule) (hi : t.test = .ignore) :
    tokenize rule = [{ test := .ignore }] := by
  unfold tokenize at ht ⊢
  simp only at ht ⊢
  split at ht
  · rename_i hignore
    rw [if_pos hignore]
  · rename_i hignore
    obtain ⟨cell, hcell, rfl⟩ := List.mem_map.1 ht
    have hmention := mentionsIgnore_of_ofCell hi
    have hseparator : Unicode.isWord (if (PatternStash.lift {} rule).2.toList.contains ';' then ';' else '|') = false := by
      split <;> exact not_isWord_of_wordGaps rfl
    refine absurd ?_ hignore
    rw [← join_pieces (if (PatternStash.lift {} rule).2.toList.contains ';' then ';' else '|')
      (PatternStash.lift {} rule).2, mentionsIgnore_join hseparator]
    exact List.any_eq_true.2 ⟨cell, (List.mem_filter.1 hcell).1, hmention⟩

end FieldRules
