import FieldRules.Proofs.Evaluations
import FieldRules.Proofs.Membership
import FieldRules.Proofs.WordSigns
/-!
# Classes of characters

The tests of letters, and of letters and digits, accept a class of characters, and their modifier `only` keeps another
one: all alphabetic characters and all numerals. So what `only` leaves passes the test alone just if no such character
of the text is anything else than a letter or a decimal digit (`only_passes_iff`).
-/

namespace FieldRules

open Text Unicode

/-- The characters of a text that belong to a class. -/
def keptText (keep : Char → Bool) (s : String) : String := String.ofList (s.toList.filter keep)

theorem mem_keptText {keep : Char → Bool} {s : String} {c : Char} :
    c ∈ (keptText keep s).toList ↔ c ∈ s.toList ∧ keep c = true := by
  rw [keptText, String.toList_ofList, List.mem_filter]

/-- With the modifier `only`, a test accepts the text, so that it stays, or puts the text in its place. -/
def OnlyLeaves (scope : Scope) (test : Test) (values : List String) (v text : String) : Prop :=
  ((Evaluation.mk scope { test, modifiers := [.only], values } (.text v)).run.value = .ok .accepted ∧ text = v) ∨
    (Evaluation.mk scope { test, modifiers := [.only], values } (.text v)).run.value = .ok (.replaced text)

/-- What a test leaves of a text with the modifier `only` is accepted without it, unless nothing is left. -/
def PassesAfterOnly (scope : Scope) (test : Test) (values : List String) (v : String) : Prop :=
  ∀ text, OnlyLeaves scope test values v text → text ≠ "" →
    (Evaluation.mk scope { test, values } (.text text)).run.value = .ok .accepted

/-- A test accepts texts of the characters of one class, and keeps those of another one with the modifier `only`. What
stands for nothing has no character of the second class alone. -/
structure FiltersText (test : Test) (accepts keeps : Char → Bool) (fault : Fault) : Prop where
  judgesEmpty : test.judgesEmpty = false
  supports : test.supports .only = true
  judge (scope : Scope) (values : List String) (v : String) : Check.judge scope { test, values } (.text v) =
    Check.ofExcept (accept (!v.toList.isEmpty && v.toList.all accepts) fault)
  judge_only (scope : Scope) (values : List String) (v : String) :
    Check.judge scope { test, modifiers := [.only], values } (.text v) = Check.ofExcept (.ok (Check.keepOnly keeps v))
  mark_unaccepted : emptyMark.toList.all accepts = false
  mark : (emptyMark.toList.all fun c => !keeps c || accepts c) = true

namespace FiltersText

variable {test : Test} {accepts keeps : Char → Bool} {fault : Fault} (h : FiltersText test accepts keeps fault)
  (scope : Scope) (values : List String) (v : String)
include h

theorem accepted_iff : (Evaluation.mk scope { test, values } (.text v)).run.value = .ok .accepted ↔
    v ≠ "" ∧ ∀ c ∈ v.toList, accepts c = true := by
  have hrun : (Evaluation.mk scope { test, values } (.text v)).run.value =
      if isUnset v then .ok .empty else accept (!v.toList.isEmpty && v.toList.all accepts) fault := by
    rw [Evaluation.run, Check.value_evaluate_of_supported rfl, h.judge, h.judgesEmpty]
    rfl
  have hmark : (!emptyMark.toList.isEmpty && emptyMark.toList.all accepts) = false := by
    rw [h.mark_unaccepted, Bool.and_false]
  rw [hrun, Check.unset_or_accept_eq_iff (p := fun v => !v.toList.isEmpty && v.toList.all accepts) rfl hmark,
    Bool.and_eq_true, Bool.not_eq_true', List.isEmpty_eq_false_iff, Ne, String.toList_eq_nil_iff, List.all_eq_true]

theorem onlyLeaves_iff {text : String} :
    OnlyLeaves scope test values v text ↔ isUnset v = false ∧ text = keptText keeps v := by
  have hsupported : Token.unsupported? { test, modifiers := [.only], values } = none := by
    simp [Token.unsupported?, h.supports]
  have hrun : (Evaluation.mk scope { test, modifiers := [.only], values } (.text v)).run.value =
      if isUnset v then .ok .empty else .ok (if keptText keeps v = v then .accepted else .replaced (keptText keeps v)) := by
    rw [Evaluation.run, Check.value_evaluate_of_supported hsupported, h.judge_only, h.judgesEmpty]
    rfl
  rw [OnlyLeaves, hrun]
  cases hunset : isUnset v with
  | true => simp
  | false =>
    by_cases hsame : keptText keeps v = v
    · simp [hsame]
    · simp [hsame, eq_comm]

theorem passesAfterOnly_iff :
    PassesAfterOnly scope test values v ↔ ∀ c ∈ v.toList, keeps c = true → accepts c = true := by
  constructor
  · intro hpasses c hc hkeep
    by_cases hset : isUnset v = false
    · have hkept : c ∈ (keptText keeps v).toList := mem_keptText.2 ⟨hc, hkeep⟩
      have hne : keptText keeps v ≠ "" := fun hempty => List.ne_nil_of_mem hkept (String.toList_eq_nil_iff.2 hempty)
      have haccepted := hpasses _ ((h.onlyLeaves_iff scope values v).2 ⟨hset, rfl⟩) hne
      exact ((h.accepted_iff scope values _).1 haccepted).2 c hkept
    · -- What stands for nothing is passed over, but no character of it is kept and not accepted.
      rw [Bool.not_eq_false, isUnset, Bool.or_eq_true, String.isEmpty_iff, beq_iff_eq] at hset
      rcases hset with rfl | rfl
      · cases hc
      · have hmark := List.all_eq_true.1 h.mark c hc
        rwa [hkeep, Bool.not_true, Bool.false_or] at hmark
  · intro hclass text hleaves hne
    obtain ⟨-, rfl⟩ := (h.onlyLeaves_iff scope values v).1 hleaves
    refine (h.accepted_iff scope values _).2 ⟨hne, fun c hc => ?_⟩
    obtain ⟨hin, hkeep⟩ := mem_keptText.1 hc
    exact hclass c hin hkeep

end FiltersText

/-! ## The two tests -/

theorem filtersText_alpha : FiltersText .alpha (fun c => letter.has c || isBlank c)
    (fun c => isAlphabetic c || isBlank c) .notLetters where
  judgesEmpty := rfl
  supports := by decide
  judge _ _ _ := rfl
  judge_only _ _ _ := rfl
  mark_unaccepted := by decide +kernel
  mark := by decide +kernel

theorem filtersText_alphaNumber : FiltersText .alphaNumber (fun c => letter.has c || decimalDigit.has c || isBlank c)
    (fun c => isAlphabetic c || isNumeral c || isBlank c) .notLettersOrDigits where
  judgesEmpty := rfl
  supports := by decide
  judge _ _ _ := rfl
  judge_only _ _ _ := rfl
  mark_unaccepted := by decide +kernel
  mark := by decide +kernel

theorem not_isBlank_of_isAlphabetic {c : Char} (h : isAlphabetic c = true) : isBlank c = false := by
  rw [Bool.eq_false_iff]
  intro hblank
  have hword := not_isWord_of_isBlank hblank
  rw [isWord, h] at hword
  cases hword

theorem not_isBlank_of_isNumeral {c : Char} (h : isNumeral c = true) : isBlank c = false := by
  rw [Bool.eq_false_iff]
  intro hblank
  have hother : otherNumeral.has c = false := has_eq_false_of_apart (by decide +kernel) (wordGaps_of_isBlank hblank)
  have hword := not_isWord_of_isBlank hblank
  simp only [isNumeral, isWord, isAlphabetic, hother, Bool.or_eq_true, Bool.or_eq_false_iff] at h hword
  simp_all

/-- What the modifier `only` leaves passes the test without it just if every alphabetic character of the text is a
letter. For the test of letters and digits, every numeral has to be a decimal digit or a letter besides. -/
theorem only_passes_iff (scope : Scope) (values : List String) (v : String) :
    (PassesAfterOnly scope .alpha values v ↔ ∀ c ∈ v.toList, isAlphabetic c = true → letter.has c = true) ∧
    (PassesAfterOnly scope .alphaNumber values v ↔ ∀ c ∈ v.toList,
      isAlphabetic c = true ∨ isNumeral c = true → letter.has c = true ∨ decimalDigit.has c = true) := by
  rw [filtersText_alpha.passesAfterOnly_iff, filtersText_alphaNumber.passesAfterOnly_iff]
  simp only [Bool.or_eq_true]
  refine ⟨forall₂_congr fun c _ => ?_, forall₂_congr fun c _ => ?_⟩
  · constructor
    · intro hclass halphabetic
      exact (hclass (.inl halphabetic)).resolve_right (Bool.eq_false_iff.1 (not_isBlank_of_isAlphabetic halphabetic))
    · exact fun hletter => Or.imp_left hletter
  · constructor
    · intro hclass hkept
      have hblank : ¬ isBlank c = true :=
        Bool.eq_false_iff.1 (hkept.elim not_isBlank_of_isAlphabetic not_isBlank_of_isNumeral)
      exact (hclass (.inl hkept)).resolve_right hblank
    · exact fun hletter => Or.imp_left hletter

/-- The Roman numeral eight is alphabetic and no letter, and the fraction one half is a numeral and no decimal digit. So
`only` keeps them, and the tests refuse them. -/
theorem roman_numeral_refused :
    let scope : Scope := { collaborators := .mute }
    (OnlyLeaves scope .alpha [] "a\u2167" "a\u2167" ∧
      (Evaluation.mk scope { test := .alpha } (.text "a\u2167")).run.value = .error .notLetters ∧
      ¬ PassesAfterOnly scope .alpha [] "a\u2167") ∧
    (OnlyLeaves scope .alphaNumber [] "a\u00bd" "a\u00bd" ∧
      (Evaluation.mk scope { test := .alphaNumber } (.text "a\u00bd")).run.value = .error .notLettersOrDigits ∧
      ¬ PassesAfterOnly scope .alphaNumber [] "a\u00bd") := by
  intro scope
  have hroman : OnlyLeaves scope .alpha [] "a\u2167" "a\u2167" := .inl ⟨by decide +kernel, rfl⟩
  have hhalf : OnlyLeaves scope .alphaNumber [] "a\u00bd" "a\u00bd" := .inl ⟨by decide +kernel, rfl⟩
  have hletters : (Evaluation.mk scope { test := .alpha } (.text "a\u2167")).run.value = .error .notLetters := by
    decide +kernel
  have hdigits : (Evaluation.mk scope { test := .alphaNumber } (.text "a\u00bd")).run.value =
      .error .notLettersOrDigits := by decide +kernel
  refine ⟨⟨hroman, hletters, fun hpasses => ?_⟩, hhalf, hdigits, fun hpasses => ?_⟩
  · have haccepted := hpasses _ hroman (by decide)
    rw [hletters] at haccepted
    cases haccepted
  · have haccepted := hpasses _ hhalf (by decide)
    rw [hdigits] at haccepted
    cases haccepted

end FieldRules
