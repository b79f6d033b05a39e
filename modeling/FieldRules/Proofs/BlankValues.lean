import FieldRules.Check.Run
import FieldRules.Proofs.Delimiters
import FieldRules.Proofs.Delivery
import FieldRules.Proofs.IgnoreWord
/-!
# Values that are blank

The values of a cell are trimmed and the empty ones are left out, so that a test that needs a value finds a fault where
nothing stands behind its colon. Patterns do not go that way: they are taken out of a rule beforehand and put back as they
are. So a value can be empty, but only in a rule that has a pattern with nothing in it; and the test of patterns that has
no more than its colon looks for the empty expression, which every text holds (`values_behind_colon`).
-/

namespace FieldRules

open FieldRules.Text

/-! ## Patterns that are taken out of a rule -/

namespace PatternStash

/-- What is cut off as a pattern has no outer blanks. -/
theorem trimmed_cutPattern (cs : List Char) : Trimmed (trimEndChars (cutPattern (trimStartChars cs)).1) := by
  have hfirst : ∀ c ∈ (cutPattern (trimStartChars cs)).1.head?, isBlank c = false := by
    intro c hc
    have hstart : c ∈ (trimStartChars cs).head? := by
      rw [← cutPattern_append_eq (trimStartChars cs), List.head?_append, Option.mem_def.1 hc]
      rfl
    exact not_isBlank_head?_dropWhile hstart
  have htrim : trimStartChars (cutPattern (trimStartChars cs)).1 = (cutPattern (trimStartChars cs)).1 :=
    dropWhile_run (List.forall_mem_nil fun c => isBlank c = true) hfirst
  have htrimmed := trimmed_trimChars (cutPattern (trimStartChars cs)).1
  rwa [trimChars, htrim] at htrimmed

/-- Nothing is cut off only where the text ends or a separator stands. -/
theorem isSeparator_of_cutPattern_nil {cs : List Char} (hstart : ∀ c ∈ cs.head?, isBlank c = false)
    (h : trimEndChars (cutPattern cs).1 = []) : ∀ c ∈ cs.head?, isSeparator c = true := by
  cases cs with
  | nil => simp
  | cons c cs =>
    rintro _ ⟨⟩
    have hkept : ∀ xs, trimEndChars (c :: xs) ≠ [] := by
      intro xs
      have hend := trimEndChars_append_cons (hstart c rfl) [] xs
      rw [List.nil_append] at hend
      simp [hend]
    cases hdelimiter : Pattern.isDelimiter c with
    | true =>
      -- A delimiter is the first character of its pattern.
      cases hclose : cutClosing c cs with
      | none =>
        simp only [cutPattern, hdelimiter, hclose, if_true] at h
        exact absurd h (hkept _)
      | some parts =>
        simp only [cutPattern, hdelimiter, hclose, if_true, List.cons_append] at h
        exact absurd h (hkept _)
    | false =>
      by_contra hplain
      have hsep : ∀ b : Bool, (c == if b then ';' else '|') = false := by
        intro b
        rw [beq_eq_false_iff_ne]
        rintro rfl
        cases b <;> exact hplain rfl
      simp only [cutPattern, hdelimiter, splitBefore, List.takeWhile_cons, hsep, Bool.false_eq_true, Bool.not_false,
        if_false, if_true] at h
      exact hkept _ h

end PatternStash

/-- A rule has a pattern with nothing in it: behind the head of a cell there are only blanks, up to a separator or to the
end. -/
inductive HasEmptyPattern : List Char → Prop
  | intro {before head blanks rest : List Char} (hbefore : ∀ c ∈ before.getLast?, PatternStash.isSeparator c = true)
      (hhead : PatternStash.IsCellHead head) (hblanks : ∀ c ∈ blanks, isBlank c = true)
      (hrest : ∀ c ∈ rest.head?, PatternStash.isSeparator c = true) :
      HasEmptyPattern (before ++ (head ++ (blanks ++ rest)))

theorem trimmed_of_mem_patterns {cs : List Char} {p : String} (h : p ∈ Sign.patterns (PatternStash.outline cs)) :
    Trimmed p.toList := by
  obtain ⟨before, head, after, -, -, -, rfl⟩ := PatternStash.mem_patterns_outline h
  rw [String.toList_ofList]
  exact PatternStash.trimmed_cutPattern after

theorem hasEmptyPattern_of_mem {cs : List Char} (h : "" ∈ Sign.patterns (PatternStash.outline cs)) :
    HasEmptyPattern cs := by
  obtain ⟨before, head, after, rfl, hbefore, hhead, hp⟩ := PatternStash.mem_patterns_outline h
  have hafter : after = after.takeWhile isBlank ++ trimStartChars after := (List.takeWhile_append_dropWhile).symm
  have hnone : trimEndChars (PatternStash.cutPattern (trimStartChars after)).1 = [] := by
    rw [← String.toList_ofList (l := trimEndChars _), ← hp]
    rfl
  have hfirst : ∀ c ∈ (trimStartChars after).head?, isBlank c = false := fun c hc => not_isBlank_head?_dropWhile hc
  rw [hafter]
  exact .intro hbefore hhead (fun c hc => List.mem_takeWhile_imp hc)
    (PatternStash.isSeparator_of_cutPattern_nil hfirst hnone)

/-! ## Values of tokens -/

theorem splitValues_spec {s v : String} (h : v ∈ splitValues s) : Trimmed v.toList ∧ v ≠ "" := by
  obtain ⟨hmem, hne⟩ := List.mem_filter.1 h
  obtain ⟨w, -, rfl⟩ := List.mem_map.1 hmem
  refine ⟨?_, by simpa using hne⟩
  rw [toList_trim]
  exact trimmed_trimChars _

theorem value_of_ofCell {stash : PatternStash} {cell v : String} (h : v ∈ (Token.ofCell stash cell).values) :
    ∃ s, ∃ w ∈ splitValues s, v = stash.restore w := by
  cases hcut : cutOnce ':' (trim cell) with
  | none => simp [Token.ofCell, hcut] at h
  | some parts =>
    obtain ⟨name, rest⟩ := parts
    cases harguments : (splitArguments (Test.ofName name) rest).2 with
    | none => simp [Token.ofCell, hcut, harguments] at h
    | some s =>
      have hmem : v ∈ (splitValues s).map stash.restore := by simpa [Token.ofCell, hcut, harguments] using h
      obtain ⟨w, hw, rfl⟩ := List.mem_map.1 hmem
      exact ⟨s, w, hw, rfl⟩

/-- A value of a rule stands in it without outer blanks and is not empty, or is one of the patterns. -/
theorem value_of_tokenize {rule : String} {t : Token} (ht : t ∈ tokenize rule) {v : String} (hv : v ∈ t.values) :
    Trimmed v.toList ∧ v ≠ "" ∨ v ∈ Sign.patterns (PatternStash.outline rule.toList) := by
  have hstash : (PatternStash.lift {} rule).1.patterns = Sign.patterns (PatternStash.outline rule.toList) := by
    rw [PatternStash.lift_eq_outline]
  unfold tokenize at ht
  simp only at ht
  split at ht
  · rw [List.mem_singleton.1 ht] at hv
    cases hv
  · obtain ⟨cell, -, rfl⟩ := List.mem_map.1 ht
    obtain ⟨s, w, hw, rfl⟩ := value_of_ofCell hv
    -- What is put back for a mark is not split and trimmed again.
    rcases PatternStash.restore_cases (PatternStash.lift {} rule).1 w with h | h
    · rw [h]
      exact .inl (splitValues_spec hw)
    · rw [hstash] at h
      exact .inr h

/-- No value has outer blanks, and only a pattern with nothing in it is empty. -/
theorem value_trimmed {rule : String} {t : Token} (ht : t ∈ tokenize rule) {v : String} (hv : v ∈ t.values) :
    trim v = v ∧ (v = "" → HasEmptyPattern rule.toList) := by
  rw [trim_eq_self_iff]
  rcases value_of_tokenize ht hv with ⟨htrimmed, hne⟩ | hp
  · exact ⟨htrimmed, fun he => absurd he hne⟩
  · refine ⟨trimmed_of_mem_patterns hp, ?_⟩
    rintro rfl
    exact hasEmptyPattern_of_mem hp

/-! ## Cells with nothing behind the colon -/

theorem trimStartChars_of_blank {cs : List Char} (h : ∀ c ∈ cs, isBlank c = true) : trimStartChars cs = [] :=
  List.dropWhile_eq_nil_iff.2 h

theorem trimEndChars_of_blank {cs : List Char} (h : ∀ c ∈ cs, isBlank c = true) : trimEndChars cs = [] := by
  rw [trimEndChars, List.dropWhile_eq_nil_iff.2 fun c hc => h c (List.mem_reverse.1 hc), List.reverse_nil]

section
variable {head blanks : List Char} (hhead : PatternStash.IsCellHead head) (hblanks : ∀ c ∈ blanks, isBlank c = true)
include hhead hblanks

/-- Behind a head, blanks are a pattern with nothing in it. -/
theorem outline_head_blanks : PatternStash.outline (head ++ blanks) = head.map .char ++ [.pattern ""] := by
  have hopen : PatternStash.openSigns (head ++ blanks) = (head.map .char ++ [.pattern ""], []) := by
    rw [PatternStash.openSigns_head hhead, trimStartChars_of_blank hblanks]
    rfl
  rw [PatternStash.outline_of_nil (by simp [hopen]), hopen]
  simp

/-- A head with nothing behind it is read as a test of the empty pattern. -/
theorem tokenize_head_blanks : tokenize (String.ofList (head ++ blanks)) = [{ test := .regex, values := [""] }] :=
  tokenize_of_outline_head hhead (by rw [String.toList_ofList, outline_head_blanks hhead hblanks])

/-- It is read as such in any rule that has it as a cell. -/
theorem mem_tokenize_head_blanks (rule : String) (hcell : PatternStash.HasCell rule.toList (head ++ blanks))
    (hignore : mentionsIgnore (PatternStash.lift {} rule).2 = false) :
    { test := .regex, values := [""] } ∈ tokenize rule := by
  rw [PatternStash.HasCell, outline_head_blanks hhead hblanks] at hcell
  obtain ⟨n, hpatterns, hread⟩ := exists_readCell_of_mem hignore hcell
  have hp : (PatternStash.lift {} rule).1.patterns[n]? = some "" := by
    obtain ⟨more, hmore⟩ := hpatterns
    have hdrop : ((PatternStash.lift {} rule).1.patterns.drop n)[0]? = some "" := by
      rw [← hmore]
      simp [Sign.patterns_append]
    simpa using hdrop
  have htail : EndsValue [] [] := .last (List.forall_mem_nil fun c => isBlank c = true)
  refine hread _ ?_
  simp only [Sign.shown_append, Sign.shown_map_char, Sign.patterns_map_char, List.length_nil, Nat.add_zero, Sign.shown]
  rw [readCell_mark hhead.opensValues htail hp]
  exact .head _

end

/-- What may stand before the colon of a cell, whatever it names. -/
structure CellName (name : List Char) : Prop where
  no_colon : ':' ∉ name
  no_separator : ∀ c ∈ name, PatternStash.isSeparator c = false
  no_ignore : mentionsIgnore (String.ofList name) = false

/-- The head of a cell is what stands up to its first colon. -/
theorem isCellHead_of_cellHead? {name after head rest : List Char} (hname : ':' ∉ name)
    (h : PatternStash.cellHead? (name ++ ':' :: after) = some (head, rest)) : PatternStash.IsCellHead (name ++ [':']) := by
  obtain ⟨hhead, hcs⟩ := PatternStash.cellHead?_eq_some_iff.1 h
  obtain ⟨before, rfl, hbefore, -⟩ := hhead.exists_name
  have hcut : ∀ {xs : List Char}, ':' ∉ xs → ∀ ys, cutAt (· == ':') (xs ++ ':' :: ys) = some (xs, ys) := by
    intro xs hxs ys
    refine cutAt_append ?_ (by simp) ys
    intro c hc
    rw [beq_eq_false_iff_ne]
    rintro rfl
    exact hxs hc
  have hsame := hcut hname after
  rw [hcs, List.append_assoc, List.singleton_append, hcut hbefore, Option.some.injEq, Prod.mk.injEq] at hsame
  rw [← hsame.1]
  exact hhead

section
variable {name blanks : List Char} (hblanks : ∀ c ∈ blanks, isBlank c = true)
include hblanks

/-- A name with nothing behind its colon is read as its test without values, whatever the stash holds. -/
theorem readCell_name_blanks (hname : ':' ∉ name) (stash : PatternStash) :
    readCell stash (name ++ ':' :: blanks) = [{ test := Test.ofName (String.ofList name) }] := by
  have hmem : ':' ∈ (trim (String.ofList (name ++ ':' :: blanks))).toList := by
    rw [toList_trim, String.toList_ofList]
    exact mem_trimChars_of_not_isBlank rfl (by simp)
  have hne : (trim (String.ofList (name ++ ':' :: blanks))).isEmpty = false := by
    rw [String.isEmpty_eq_false_iff]
    intro hempty
    rw [hempty] at hmem
    cases hmem
  have hcut := cutOnce_trim_append hname blanks
  have hnothing : cutOnce ':' (String.ofList []) = none := rfl
  have hvalues : splitValues (String.ofList []) = [] := by decide
  have hwords : ∀ test, splitModifiers test (String.ofList []) = [] := by
    intro test
    have hpieces : ((pieces ',' (String.ofList [])).map trim).filter (!·.isEmpty) = [] := by decide
    rw [splitModifiers, hpieces, List.map_nil]
  rw [trimEndChars_of_blank hblanks] at hcut
  unfold readCell Token.ofCell
  simp only [hne, hcut, Test.ofName_trimStart, splitArguments, hnothing]
  cases (Test.ofName (String.ofList name)).hasDirectValue <;> simp [hvalues, hwords]

variable (hname : CellName name)
include hname

theorem not_isSeparator_name_blanks : ∀ c ∈ name ++ ':' :: blanks, PatternStash.isSeparator c = false := by
  intro c hc
  rw [List.mem_append, List.mem_cons] at hc
  rcases hc with hc | rfl | hc
  · exact hname.no_separator c hc
  · rfl
  · by_contra hs
    rcases PatternStash.isSeparator_cases (by simpa using hs) with rfl | rfl <;> cases hblanks _ hc

variable (hhead : ¬ PatternStash.IsCellHead (name ++ [':']))
include hhead

/-- Any other name than those of the test of patterns opens no pattern. -/
theorem outline_name_blanks : PatternStash.outline (name ++ ':' :: blanks) = (name ++ ':' :: blanks).map .char := by
  have hnone : PatternStash.cellHead? (name ++ ':' :: blanks) = none := by
    refine Option.eq_none_iff_forall_ne_some.2 fun cell hcell => ?_
    exact hhead (isCellHead_of_cellHead? hname.no_colon hcell)
  refine PatternStash.outline_of_no_head fun piece hpiece => ?_
  rw [piecesBy_of_not (not_isSeparator_name_blanks hblanks hname), List.mem_singleton] at hpiece
  rw [hpiece, hnone]

/-- In any rule that has it as a cell, such a name with nothing behind its colon is read as its test without values. -/
theorem mem_tokenize_name_blanks (rule : String) (hcell : PatternStash.HasCell rule.toList (name ++ ':' :: blanks))
    (hignore : mentionsIgnore (PatternStash.lift {} rule).2 = false) :
    { test := Test.ofName (String.ofList name) } ∈ tokenize rule := by
  rw [PatternStash.HasCell, outline_name_blanks hblanks hname hhead] at hcell
  obtain ⟨n, -, hread⟩ := exists_readCell_of_mem hignore hcell
  refine hread _ ?_
  rw [Sign.shown_map_char, readCell_name_blanks hblanks hname.no_colon]
  exact .head _

/-- It is read as such by itself. -/
theorem tokenize_name_blanks :
    tokenize (String.ofList (name ++ ':' :: blanks)) = [{ test := Test.ofName (String.ofList name) }] := by
  have hignore : mentionsIgnore (String.ofList (name ++ ':' :: blanks)) = false := by
    rw [mentionsIgnore_append_cons (not_isWord_of_wordGaps rfl), hname.no_ignore, Bool.false_or]
    refine mentionsIgnore_of_forall fun c hc hi => ?_
    have hletter := not_isBlank_of_isAsciiLetter (isAsciiLetter_of_toLower (c := c) (hi ▸ by decide))
    rw [hblanks c hc] at hletter
    cases hletter
  have houtline := outline_name_blanks hblanks hname hhead
  rw [← String.toList_ofList (l := name ++ ':' :: blanks)] at houtline
  have hsep : ∀ c, PatternStash.isSeparator c = true →
      .char c ∉ PatternStash.outline (String.ofList (name ++ ':' :: blanks)).toList := by
    intro c hc hmem
    rw [houtline, String.toList_ofList] at hmem
    have hplain := not_isSeparator_name_blanks hblanks hname c (by simpa using hmem)
    rw [hc] at hplain
    cases hplain
  rw [tokenize_of_no_separator (mentionsIgnore_lift hignore) hsep, houtline, String.toList_ofList, Sign.shown_map_char,
    readCell_name_blanks hblanks hname.no_colon]

end

/-! ## Tests that need a value -/

/-- A test that takes its values directly needs one, unless it is the test of telephone numbers. -/
def Test.needsValue (test : Test) : Bool := test.hasDirectValue && test != .tel

/-- Without a value such a test finds that it has none, whatever it is put to. -/
theorem Check.evaluate_of_no_values {t : Token} (hneeds : t.test.needsValue = true) (hvalues : t.values = [])
    (hmodifiers : ∀ m ∈ t.modifiers, t.test.supports m = true) (scope : Scope) {s : Subject} (hs : s.isUnset = false) :
    (Check.evaluate scope t s).outcome.value = .error (.missingValue t.test.name) := by
  obtain ⟨test, modifiers, values⟩ := t
  simp only at hneeds hvalues hmodifiers
  subst hvalues
  have hsupported : (modifiers.find? fun m => !test.supports m) = none := by
    rw [List.find?_eq_none]
    intro m hm
    simp [hmodifiers m hm]
  unfold Check.evaluate
  simp only [hsupported, hs, Bool.and_false, Bool.false_eq_true, if_false]
  cases test <;> first | rfl | exact absurd hneeds Bool.false_ne_true

/-- A dialect whose empty expression matches the empty text, which every text holds. -/
def Pattern.Dialect.FindsEmpty (dialect : Dialect) : Prop :=
  ∃ isMatch, dialect "" = .ok isMatch ∧ ∀ x, isMatch x = true

theorem Pattern.Expr.findsEmpty_dialect : Dialect.FindsEmpty Expr.dialect := by
  refine ⟨Expr.empty.matchesIn, rfl, fun x => ?_⟩
  have hplaces : 1 < 1 <<< (x.toList.length + 1) := by
    rw [Nat.one_shiftLeft]
    exact Nat.one_lt_two_pow (Nat.succ_ne_zero _)
  simp only [matchesIn, on, Steps.run, bne_iff_ne]
  omega

/-- The test of the empty pattern has a value, so that it looks for the empty expression in a text. -/
theorem Check.evaluate_empty_pattern (scope : Scope) {s : Subject} (hs : s.isUnset = false) :
    (Check.evaluate scope { test := .regex, values := [""] } s).outcome.value =
      match scope.collaborators.dialect "", s.shown? with
      | .error why, _ => .error (.malformedPattern (.flaw why))
      | .ok _, none => .error (.textExpected .regex)
      | .ok isMatch, some x => accept (isMatch x) .noMatch := by
  have hjoined : Token.joinedValue { test := .regex, values := [""] } = .ok "" := by simp [Token.joinedValue]
  have hcompile : compilePattern scope.collaborators "" =
      ((scope.collaborators.dialect "").mapError .flaw).mapError .malformedPattern := rfl
  have hregex : regex scope.collaborators { test := .regex, values := [""] } s =
      match scope.collaborators.dialect "", s.shown? with
      | .error why, _ => .error (.malformedPattern (.flaw why))
      | .ok _, none => .error (.textExpected .regex)
      | .ok isMatch, some x => accept (isMatch x) .noMatch := by
    cases hdialect : scope.collaborators.dialect "" <;> cases hshown : s.shown? <;>
      simp [regex, hjoined, hcompile, hdialect, Except.mapError, Subject.expectText, hshown, bind, Except.bind]
  unfold Check.evaluate
  simp only [List.find?_nil, hs, Bool.and_false, Bool.false_eq_true, if_false]
  exact congrArg (fun r => (ofExcept r).outcome.value) hregex

/-- Every value of a rule is trimmed, and none is empty but where a pattern has nothing in it. A token without values finds
that it has none, if its test needs one. A cell with nothing behind its colon is read as such a token, by itself and in
every rule that has the cell and is not turned off, unless it is the test of patterns that it names: that one gets the
empty pattern, and accepts every text in a dialect whose empty expression matches everywhere. -/
theorem values_behind_colon (rule : String) {name blanks : List Char} (hname : CellName name)
    (hblanks : ∀ c ∈ blanks, isBlank c = true) (scope : Scope) :
    (∀ t ∈ tokenize rule, (∀ v ∈ t.values, trim v = v ∧ (v = "" → HasEmptyPattern rule.toList)) ∧
      (t.test.needsValue = true → t.values = [] → (∀ m ∈ t.modifiers, t.test.supports m = true) →
        ∀ s : Subject, s.isUnset = false →
          (Check.evaluate scope t s).outcome.value = .error (.missingValue t.test.name))) ∧
    ∃ t, tokenize (String.ofList (name ++ ':' :: blanks)) = [t] ∧
      (PatternStash.HasCell rule.toList (name ++ ':' :: blanks) →
        mentionsIgnore (PatternStash.lift {} rule).2 = false → t ∈ tokenize rule) ∧
      t.test = Test.ofName (String.ofList name) ∧ (t.values = [] ↔ ¬ PatternStash.IsCellHead (name ++ [':'])) ∧
      (t.test.needsValue = true → ∀ s : Subject, s.isUnset = false →
        ((Check.evaluate scope t s).outcome.value = .error (.missingValue t.test.name) ↔
          ¬ PatternStash.IsCellHead (name ++ [':']))) ∧
      (PatternStash.IsCellHead (name ++ [':']) → scope.collaborators.dialect.FindsEmpty → ∀ x, isUnset x = false →
        (Check.evaluate scope t (.text x)).outcome.value = .ok .accepted) := by
  constructor
  · intro t ht
    exact ⟨fun v hv => value_trimmed ht hv, fun hneeds hvalues hmodifiers s hs =>
      Check.evaluate_of_no_values hneeds hvalues hmodifiers scope hs⟩
  · by_cases hhead : PatternStash.IsCellHead (name ++ [':'])
    · have hread := tokenize_head_blanks hhead hblanks
      have hmem := mem_tokenize_head_blanks hhead hblanks rule
      rw [List.append_assoc, List.singleton_append] at hread hmem
      have htest : Test.ofName (String.ofList name) = .regex := by
        obtain ⟨other, hother, -, htest⟩ := hhead.exists_name
        rwa [List.append_cancel_right hother]
      refine ⟨_, hread, hmem, htest.symm, by simp [hhead], ?_, ?_⟩
      · intro _ s hs
        rw [Check.evaluate_empty_pattern scope hs]
        refine iff_of_false ?_ (not_not_intro hhead)
        split
        · simp
        · simp
        · unfold accept
          split <;> simp
      · rintro _ ⟨isMatch, hdialect, hall⟩ x hx
        rw [Check.evaluate_empty_pattern scope (s := .text x) hx, hdialect]
        simp [Subject.shown?, hall, accept]
    · have hread := tokenize_name_blanks hblanks hname hhead
      have hmem := mem_tokenize_name_blanks hblanks hname hhead rule
      generalize Test.ofName (String.ofList name) = test at hread hmem ⊢
      refine ⟨{ test }, hread, hmem, rfl, by simp [hhead], ?_, fun h => absurd h hhead⟩
      intro hneeds s hs
      have hmissing := Check.evaluate_of_no_values hneeds rfl (List.forall_mem_nil _) scope hs
      exact iff_of_true hmissing hhead

theorem values_behind_colon_enum :
    let rule := "re:/a;b/;enum: ;re: "
    let scope : Scope := { collaborators := .mute }
    CellName "enum".toList ∧ CellName "re".toList ∧ (∀ c ∈ [' '], isBlank c = true) ∧
      PatternStash.HasCell rule.toList "enum: ".toList ∧ PatternStash.HasCell rule.toList "re: ".toList ∧
      mentionsIgnore (PatternStash.lift {} rule).2 = false ∧
      (∃ t ∈ tokenize rule, t.test = .enum ∧ t.values = [] ∧ ∀ x, isUnset x = false →
        (Check.evaluate scope t (.text x)).outcome.value = .error (.missingValue "Enum")) ∧
      ∃ t ∈ tokenize rule, t.test = .regex ∧ t.values ≠ [] ∧ ∀ x, isUnset x = false →
        (Check.evaluate scope t (.text x)).outcome.value = .ok .accepted := by
  intro rule scope
  have hplain : ∀ name : List Char, name.all (fun c => !PatternStash.isSeparator c) = true →
      ∀ c ∈ name, PatternStash.isSeparator c = false := by
    intro name hall c hc
    simpa using List.all_eq_true.1 hall c hc
  have hunmarked : mentionsIgnore (String.ofList "enum".toList) = false ∧
      mentionsIgnore (String.ofList "re".toList) = false := by
    rw [mentionsIgnore_of_ascii (by decide), mentionsIgnore_of_ascii (by decide)]
    decide
  have henum : CellName "enum".toList := ⟨by decide, hplain _ (by decide), hunmarked.1⟩
  have hre : CellName "re".toList := ⟨by decide, hplain _ (by decide), hunmarked.2⟩
  have hblanks : ∀ c ∈ [' '], isBlank c = true := List.forall_mem_singleton.2 rfl
  have hopens : PatternStash.IsCellHead ("re".toList ++ [':']) := PatternStash.isCellHead_re
  have hname : ¬ PatternStash.IsCellHead ("enum".toList ++ [':']) := by
    intro h
    have hcell := PatternStash.cellHead?_eq_some_iff.2 ⟨h, (List.append_nil _).symm⟩
    have hnone : PatternStash.cellHead? ("enum".toList ++ [':']) = none := by decide
    rw [hnone] at hcell
    cases hcell
  have hfirst : (PatternStash.openSigns rule.toList).2.dropWhile (fun c => !PatternStash.isSeparator c) =
      ';' :: "enum: ;re: ".toList := by decide
  have hsecond : (PatternStash.openSigns "enum: ;re: ".toList).2.dropWhile (fun c => !PatternStash.isSeparator c) =
      ';' :: "re: ".toList := by decide
  have hlast : PatternStash.outline "re: ".toList = "re:".toList.map .char ++ [.pattern ""] :=
    outline_head_blanks hopens hblanks
  have houtline : PatternStash.outline rule.toList = ("re:".toList.map .char ++ [.pattern "/a;b/"]) ++
      .char ';' :: ("enum: ".toList.map .char ++ .char ';' :: ("re:".toList.map .char ++ [.pattern ""])) := by
    rw [PatternStash.outline_of_cons hfirst, PatternStash.outline_of_cons hsecond, hlast]
    decide
  have hignore : mentionsIgnore (PatternStash.lift {} rule).2 = false := by
    rw [PatternStash.lift_eq_outline, houtline, mentionsIgnore_of_ascii (by decide +kernel)]
    decide +kernel
  have hcells : PatternStash.HasCell rule.toList "enum: ".toList ∧ PatternStash.HasCell rule.toList "re: ".toList := by
    have hcell : PatternStash.outline "enum: ".toList = "enum: ".toList.map .char :=
      outline_name_blanks hblanks henum hname
    rw [PatternStash.HasCell, PatternStash.HasCell, PatternStash.outlineCells, houtline, hcell, hlast]
    decide
  obtain ⟨t, -, hmem, hof, hvalues, hmissing, -⟩ := (values_behind_colon rule henum hblanks scope).2
  obtain ⟨u, -, hmem', hof', hvalues', -, haccepts⟩ := (values_behind_colon rule hre hblanks scope).2
  have htests : Test.ofName (String.ofList "enum".toList) = .enum ∧ Test.ofName (String.ofList "re".toList) = .regex := by
    decide +kernel
  rw [htests.1] at hof
  rw [hof] at hmissing
  refine ⟨henum, hre, hblanks, hcells.1, hcells.2, hignore, ⟨t, hmem hcells.1 hignore, hof, hvalues.2 hname, ?_⟩,
    u, hmem' hcells.2 hignore, hof'.trans htests.2, fun h => hvalues'.1 h hopens, ?_⟩
  · intro x hx
    exact (hmissing rfl (.text x) hx).2 hname
  · exact haccepts hopens Pattern.Expr.findsEmpty_dialect

/-- The test of patterns accepts a text where its pattern is missing, and the test of lists finds a fault. -/
theorem missing_pattern_accepts :
    tokenize "re:" = [{ test := .regex, values := [""] }] ∧ tokenize "enum:" = [{ test := .enum }] ∧
      (Validation.alone.validateValue "x" "re:").value = .ok (.valid (.map [("value", .text "x")])) ∧
      (Validation.alone.validateValue "x" "enum:").value =
        .ok (.invalid { fault := .missingValue "Enum", field := some "value" }) := by
  have hnone : ∀ c ∈ [], isBlank c = true := List.forall_mem_nil _
  have hre := tokenize_head_blanks PatternStash.isCellHead_re hnone
  refine ⟨?_, ?_, by decide +kernel, by decide +kernel⟩
  · simpa using hre
  · rw [tokenize_of_ascii (by decide) (by decide)]
    decide

end FieldRules
