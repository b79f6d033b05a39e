import FieldRules.Proofs.Outline
/-!
# The arguments of a cell

A cell opens with the name of its test, and with its modifiers if they are written out; the values follow. What begins
as marks do names no modifiers, so that in a cell that is opened so far a mark opens the values (`Token.ofCell_opens`).
-/

namespace FieldRules

open FieldRules.Text

/-! ## Modifiers -/

/-- No modifier is spelled with the sign that joins the values of a list, or with one that begins marks. -/
theorem Test.knows_of_mem {test : Test} {word : String} {c : Char} (hc : c = valueSeparator ∨ c = '_')
    (h : c ∈ word.toList) : test.knows word = false := by
  have hspellings : ∀ entry ∈ test.modifiers, ∀ name ∈ entry.2, valueSeparator ∉ name.toList ∧ '_' ∉ name.toList := by
    cases test with
    | unknown name => simp [Test.modifiers]
    | _ => decide
  -- The two signs are no blanks and have no other case, so that the word is looked up with them in it.
  have hkey : c ∈ (asciiLower (trim word)).toList := by
    rw [toList_asciiLower, toList_trim, List.mem_map]
    rcases hc with rfl | rfl <;> exact ⟨_, mem_trimChars_of_not_isBlank rfl h, rfl⟩
  unfold Test.knows Test.modifier
  simp only
  rw [List.find?_eq_none.2]
  rintro ⟨m, names⟩ hentry hcontains
  obtain ⟨hunit, hunderscore⟩ := hspellings _ hentry _ (List.contains_iff_mem.1 hcontains)
  rcases hc with rfl | rfl
  · exact hunit hkey
  · exact hunderscore hkey

theorem namesModifiers_of_mem {test : Test} {s : String} {c : Char} (hc : c = valueSeparator ∨ c = '_')
    (h : c ∈ s.toList) : namesModifiers test s = false := by
  have hplain : isBlank c = false ∧ (c == ',') = false := by
    rcases hc with rfl | rfl <;> exact ⟨rfl, rfl⟩
  obtain ⟨w, hw, hmem⟩ := exists_mem_piecesBy (p := (· == ',')) hplain.2 h
  have hword : trim (String.ofList w) ∈ (pieces ',' s).map trim :=
    List.mem_map_of_mem (List.mem_map_of_mem hw)
  have hknows : test.knows (trim (String.ofList w)) = false :=
    Test.knows_of_mem hc (by rw [toList_trim, String.toList_ofList]; exact mem_trimChars_of_not_isBlank hplain.1 hmem)
  have hall : ((pieces ',' s).map trim).all test.knows = false :=
    List.all_eq_false.2 ⟨_, hword, by simp [hknows]⟩
  unfold namesModifiers
  simp only [hall, Bool.and_false]

/-! ## Values -/

theorem isInfix_of_mem_splitValues {s v : String} (h : v ∈ splitValues s) : v.toList <:+: s.toList := by
  obtain ⟨w, hw, rfl⟩ := List.mem_map.1 (List.mem_filter.1 h).1
  rw [toList_trim]
  exact (trimChars_isInfix _).trans (isInfix_of_mem_pieces hw)

theorem isInfix_of_splitArguments {test : Test} {rest values : String} (h : (splitArguments test rest).2 = some values) :
    values.toList <:+: rest.toList := by
  unfold splitArguments at h
  split at h
  · rename_i head tail hcut
    split at h
    · cases h
      exact (isInfix_of_cutOnce hcut).2
    · cases h
      exact List.infix_rfl
  · split at h
    · cases h
      exact List.infix_rfl
    · cases h

/-- The first value begins with the first character, if that is part of a value. -/
theorem exists_splitValues_cons {c : Char} (hblank : isBlank c = false) (hcomma : c ≠ ',') (hunit : c ≠ valueSeparator)
    (cs : List Char) : ∃ v vs, splitValues (String.ofList (c :: cs)) = String.ofList (c :: v) :: vs := by
  have hfirst : ∀ sep, c ≠ sep → ∃ v vs, pieces sep (String.ofList (c :: cs)) = String.ofList (c :: v) :: vs := by
    intro sep hsep
    have hnone : ∀ d ∈ [c], (d == sep) = false := by simpa using hsep
    obtain ⟨w, ws, hw⟩ := exists_piecesBy_append hnone cs
    exact ⟨w, ws.map String.ofList, by simpa [pieces] using congrArg (List.map String.ofList) hw⟩
  have htrim : ∀ v, trim (String.ofList (c :: v)) = String.ofList (c :: trimEndChars v) := by
    intro v
    have hstart : trimStartChars (c :: v) = [] ++ c :: v := by simp [trimStartChars, hblank]
    rw [trim, String.toList_ofList, trimChars, hstart, trimEndChars_append_cons hblank, List.nil_append]
  have hsep : c ≠ (if (String.ofList (c :: cs)).toList.contains valueSeparator then valueSeparator else ',') := by
    split <;> assumption
  obtain ⟨v, vs, hv⟩ := hfirst _ hsep
  refine ⟨trimEndChars v, (vs.map trim).filter (!·.isEmpty), ?_⟩
  unfold splitValues
  simp only [hv, List.map_cons, htrim]
  rw [List.filter_cons_of_pos (by simp)]

/-! ## Where the values begin -/

/-- What a cell opens with before its values: the name of a test that takes them directly, or the name of a test and its
modifiers. -/
inductive OpensValues : List Char → Test → List Modifier → Prop
  | direct {name : List Char} {test : Test} (hname : ':' ∉ name) (htest : Test.ofName (String.ofList name) = test)
      (hdirect : test.hasDirectValue = true) : OpensValues (name ++ [':']) test []
  | modified {name words : List Char} {test : Test} (hname : ':' ∉ name) (hwords : ':' ∉ words)
      (htest : Test.ofName (String.ofList name) = test)
      (hmodifiers : test.hasDirectValue = false ∨ namesModifiers test (String.ofList words) = true) :
      OpensValues (name ++ ':' :: (words ++ [':'])) test (splitModifiers test (String.ofList words))

theorem Test.ofName_trimStart (cs : List Char) :
    Test.ofName (String.ofList (trimStartChars cs)) = Test.ofName (String.ofList cs) := by
  have hstart : trimStartChars (trimStartChars cs) = trimStartChars cs :=
    dropWhile_run (List.forall_mem_nil fun c => isBlank c = true) fun c hc => not_isBlank_head?_dropWhile hc
  have htrim : trim (String.ofList (trimStartChars cs)) = trim (String.ofList cs) := by
    simp only [trim, trimChars, String.toList_ofList, hstart]
  unfold Test.ofName
  rw [htrim]

/-- The first colon parts the name of a cell from the rest. -/
theorem cutOnce_trim_append {name : List Char} (hname : ':' ∉ name) (rest : List Char) :
    cutOnce ':' (trim (String.ofList (name ++ ':' :: rest))) =
      some (String.ofList (trimStartChars name), String.ofList (trimEndChars rest)) := by
  have hcolon : ':' ∉ trimStartChars name := fun hmem => hname ((List.dropWhile_sublist isBlank).subset hmem)
  rw [trim, String.toList_ofList, trimChars, trimStartChars, dropWhile_append_cons (by rfl),
    trimEndChars_append_cons (by rfl), ← trimStartChars, cutOnce_ofList_append hcolon]

/-- Nothing before a colon names modifiers if it begins as marks do. -/
theorem splitArguments_direct {test : Test} (hdirect : test.hasDirectValue = true) (cs : List Char) :
    splitArguments test (String.ofList ('_' :: cs)) = (none, some (String.ofList ('_' :: cs))) := by
  unfold splitArguments
  split
  · rename_i head tail h
    obtain ⟨⟨x, y⟩, hcut, he⟩ := Option.map_eq_some_iff.1 h
    cases he
    obtain ⟨c, hc, hcs, -⟩ := cutAt_eq_some hcut
    have hmem : '_' ∈ x := by
      rw [String.toList_ofList] at hcs
      cases x with
      | nil =>
        cases hcs
        cases hc
      | cons d x =>
        cases hcs
        exact .head _
    simp [hdirect, namesModifiers_of_mem (.inr rfl) (s := String.ofList x) (by simpa using hmem)]
  · rw [hdirect, if_pos rfl]

/-- What begins as marks do and stands behind the opening of a cell are the values of its test. -/
theorem Token.ofCell_opens {opening : List Char} {test : Test} {modifiers : List Modifier}
    (hopens : OpensValues opening test modifiers) (stash : PatternStash) (cs : List Char) :
    Token.ofCell stash (String.ofList (opening ++ '_' :: cs)) =
      { test, modifiers, values := (splitValues (String.ofList ('_' :: trimEndChars cs))).map stash.restore } := by
  have hend : trimEndChars ('_' :: cs) = '_' :: trimEndChars cs := trimEndChars_append_cons (by rfl) [] cs
  cases hopens with
  | direct hname htest hdirect =>
    rename_i name
    have hcut := cutOnce_trim_append hname ('_' :: cs)
    unfold Token.ofCell
    simp only [List.append_assoc, List.singleton_append, hcut, Test.ofName_trimStart, hend, htest,
      splitArguments_direct hdirect]
  | modified hname hwords htest hmodifiers =>
    rename_i name words
    have hcut := cutOnce_trim_append hname (words ++ ':' :: '_' :: cs)
    have harguments : splitArguments test (String.ofList (words ++ ':' :: '_' :: trimEndChars cs)) =
        (some (String.ofList words), some (String.ofList ('_' :: trimEndChars cs))) := by
      unfold splitArguments
      rw [cutOnce_ofList_append hwords]
      rcases hmodifiers with h | h <;> simp [h]
    unfold Token.ofCell
    simp only [List.append_assoc, List.cons_append, List.nil_append, hcut, Test.ofName_trimStart,
      trimEndChars_append_cons (c := ':') (by rfl), hend, htest, harguments]

/-- A name of the test of patterns names it in any case of its letters. -/
theorem Test.ofName_of_cellNames {name : String} (h : PatternStash.cellNames.contains (asciiLower (trim name)) = true) :
    Test.ofName name = .regex := by
  have hall : (PatternStash.cellNames.all fun s => s.toList.all fun c => c.toNat < 128) = true := by decide
  have hnames : ∀ s ∈ PatternStash.cellNames, ∀ c ∈ s.toList, c.toNat < 128 := by
    simpa only [List.all_eq_true, decide_eq_true_eq] using hall
  have hmem := List.contains_iff_mem.1 h
  have hfold : (trim name).toList.map foldAscii = (asciiLower (trim name)).toList := by
    rw [toList_asciiLower]
    refine List.map_congr_left fun c hc => ?_
    have hlower := hnames _ hmem c.toLower (by rw [toList_asciiLower]; exact List.mem_map_of_mem hc)
    -- The two characters that fold to a letter without being one have no small form.
    unfold foldAscii
    split
    · rename_i hs
      obtain rfl : c = Char.ofNat 0x17F := by rw [← beq_iff_eq.1 hs, Char.ofNat_toNat]
      exact absurd hlower (by decide)
    · split
      · rename_i hk
        obtain rfl : c = Char.ofNat 0x212A := by rw [← beq_iff_eq.1 hk, Char.ofNat_toNat]
        exact absurd hlower (by decide)
      · rfl
  simp only [PatternStash.cellNames, List.mem_cons, List.not_mem_nil, or_false] at hmem
  unfold Test.ofName
  simp only [hfold, String.ofList_toList]
  rcases hmem with hname | hname | hname | hname | hname <;> rw [hname] <;> rfl

/-- The head of a cell that holds a pattern is a name of the test of patterns and a colon. -/
theorem PatternStash.IsCellHead.exists_name {head : List Char} (h : PatternStash.IsCellHead head) :
    ∃ name, head = name ++ [':'] ∧ ':' ∉ name ∧ Test.ofName (String.ofList name) = .regex := by
  obtain ⟨hblanks, hletters, hgap, hname⟩ := h
  rename_i blanks name gap
  have hcolon : ':' ∉ blanks ++ name ++ gap := by
    rw [List.mem_append, List.mem_append]
    rintro ((hm | hm) | hm)
    · cases hblanks _ hm
    · cases hletters _ hm
    · cases hgap _ hm
  have hfirst : ∀ c ∈ (name ++ gap).head?, isBlank c = false := by
    intro c hc
    cases name with
    | nil => cases hname
    | cons d name =>
      cases hc
      exact not_isBlank_of_isAsciiLetter (hletters c (.head _))
  have hlast : ∀ c ∈ name.getLast?, isBlank c = false := fun c hc =>
    not_isBlank_of_isAsciiLetter (hletters c (List.mem_of_mem_getLast? hc))
  refine ⟨blanks ++ name ++ gap, rfl, hcolon, Test.ofName_of_cellNames ?_⟩
  rw [trim, String.toList_ofList, trimChars, trimStartChars, List.append_assoc, dropWhile_run hblanks hfirst,
    trimEndChars_run hlast hgap, hname]

/-- It opens the values of that test. -/
theorem PatternStash.IsCellHead.opensValues {head : List Char} (h : PatternStash.IsCellHead head) :
    OpensValues head .regex [] := by
  obtain ⟨name, rfl, hcolon, htest⟩ := h.exists_name
  exact .direct hcolon htest rfl

end FieldRules
