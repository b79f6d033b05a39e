import FieldRules.Proofs.Modifiers
/-!
# Tests that may see an array as one value

`enum`, `nenum` and `required` are the tests that look at the array in the stash. What a test of membership accepts is
told by the entries that were submitted (`Token.Admits`, `Evaluation.accepts_membership_iff`), and what `required`
accepts by whether there is anything (`Evaluation.accepts_required_iff`). None of them replaces its subject, so the
stand-in of an array goes through them as it is (`Walk.accepts_standIn_iff`).
-/

namespace FieldRules

theorem Test.isMembership_iff {test : Test} : test.isMembership = true ↔ test = .enum ∨ test = .nenum := by
  cases test <;> simp [isMembership]

theorem Test.takesWholeArray_iff {test : Test} :
    test.takesWholeArray = true ↔ test.isMembership = true ∨ test = .required := by
  simp [takesWholeArray]

/-- Such a test takes part in the walk. -/
theorem Test.not_isDeferred_of_takesWholeArray {test : Test} (h : test.takesWholeArray = true) :
    test.isDeferred = false := by
  cases test <;> simp_all [takesWholeArray, isMembership, isDeferred]

/-- A test of membership has a list, and finds the entries in the relation to it that it asks for. -/
def Token.Admits (t : Token) (entries : List String) : Prop :=
  t.values ≠ [] ∧ ((Relation.ofToken t).holds entries t.values = true ↔ t.test = .enum)

/-- What a test holds of was submitted, if it does not hold of the two texts that stand for nothing. -/
theorem isUnset_eq_false {p : String → Bool} (hempty : p "" = false) (hmark : p emptyMark = false) {v : String}
    (h : p v = true) : isUnset v = false := by
  rw [Bool.eq_false_iff]
  intro hunset
  rw [isUnset, Bool.or_eq_true, String.isEmpty_iff, beq_iff_eq] at hunset
  rcases hunset with rfl | rfl
  · exact Bool.eq_false_iff.1 hempty h
  · exact Bool.eq_false_iff.1 hmark h

namespace Check

theorem accept_eq_ok_iff {condition : Bool} {fault : Fault} {outcome : Outcome} :
    accept condition fault = .ok outcome ↔ condition = true ∧ outcome = .accepted := by
  cases condition <;> simp [accept, eq_comm]

/-- A test that passes over what stands for nothing accepts what it holds of, if it does not hold of that. -/
theorem unset_or_accept_eq_iff {p : String → Bool} (hempty : p "" = false) (hmark : p emptyMark = false) {fault : Fault}
    {v : String} : (if isUnset v then .ok .empty else accept (p v) fault) = .ok .accepted ↔ p v = true := by
  constructor
  · intro h
    split at h
    · cases h
    · exact (accept_eq_ok_iff.1 h).1
  · intro h
    rw [isUnset_eq_false hempty hmark h, if_neg Bool.false_ne_true, accept_eq_ok_iff]
    exact ⟨h, rfl⟩

/-- The one text of a leaf, where no array is in the stash. -/
theorem submitted_none (s : Subject) : submitted none s = s.shown?.toList := by
  unfold submitted
  split <;> simp_all

theorem submitted_standIn (entries : List String) : submitted (some entries) (.text arrayMark) = entries := by
  have hmark : (Subject.text arrayMark).isArrayMark = true := by simp [Subject.isArrayMark]
  simp [submitted, hmark]

variable {scope : Scope} {t : Token} {s : Subject}

/-- Unless it has a modifier that its test does not have, a check passes over what was not submitted, or judges. -/
theorem evaluate_of_supported (h : t.unsupported? = none) :
    evaluate scope t s = if !t.test.judgesEmpty && s.isUnset then return .empty else judge scope t s := by
  have hfind : t.modifiers.find? (fun m => !t.test.supports m) = none := by simpa [Token.unsupported?] using h
  unfold evaluate
  rw [hfind]

theorem value_evaluate_of_supported (h : t.unsupported? = none) : (evaluate scope t s).outcome.value =
    if !t.test.judgesEmpty && s.isUnset then .ok .empty else (judge scope t s).outcome.value := by
  rw [evaluate_of_supported h]
  split <;> rfl

theorem judge_membership_eq_ok_iff (hm : t.test.isMembership = true) {outcome : Outcome} :
    (judge scope t s).outcome.value = .ok outcome ↔
      t.Admits (submitted scope.stash s) ∧ outcome = .accepted := by
  unfold Token.Admits
  rcases Test.isMembership_iff.1 hm with ht | ht
  · have hjudge : (judge scope t s).outcome.value = enum scope t s := by rw [judge, ht]; rfl
    rw [hjudge, enum, isMember]
    rcases t.values with _ | ⟨v, vs⟩
    · simp [bind, Except.bind]
    · simp [bind, Except.bind, accept_eq_ok_iff, ht]
  · have hjudge : (judge scope t s).outcome.value = nenum scope t s := by rw [judge, ht]; rfl
    rw [hjudge, nenum, isMember]
    rcases t.values with _ | ⟨v, vs⟩
    · simp [bind, Except.bind]
    · simp [bind, Except.bind, accept_eq_ok_iff, ht]

/-- Is anything there? An array is there if it has entries, a text if it is not blank, and an upload if it brings a
file. -/
def isPresent (stash : Option (List String)) (s : Subject) : Bool :=
  if s.isArrayMark then stash.any fun entries => !entries.isEmpty else !s.isEmpty

/-- Where no array is in the stash, the text that is reserved for stand-ins counts as nothing. -/
theorem isPresent_none_iff {s : Subject} :
    isPresent none s = true ↔ s.isEmpty = false ∧ s ≠ .text arrayMark := by
  unfold isPresent
  cases hmark : s.isArrayMark with
  | true =>
    have hs : s = .text arrayMark := by
      cases s <;> simp_all [Subject.isArrayMark]
    simp [hs]
  | false =>
    have hs : s ≠ .text arrayMark := by
      rintro rfl
      exact absurd hmark (by decide)
    simp [hs]

theorem judge_required_eq_ok_iff (ht : t.test = .required) {outcome : Outcome} :
    (judge scope t s).outcome.value = .ok outcome ↔ isPresent scope.stash s = true ∧ outcome = .accepted := by
  have hjudge : (judge scope t s).outcome.value = required scope s := by rw [judge, ht]; rfl
  rw [hjudge]
  unfold required isPresent
  split
  · exact accept_eq_ok_iff
  · cases s <;> exact accept_eq_ok_iff

end Check

namespace Evaluation

variable {e : Evaluation}

theorem not_accepts_of_unsupported {fault : Fault} (h : e.token.unsupported? = some fault) : ¬ e.Accepts := by
  rintro ⟨outcome, ho⟩
  rw [run, Check.evaluate_of_unsupported h] at ho
  cases ho

/-- A test of membership passes over what was not submitted, and accepts the entries that its list admits. -/
theorem accepts_membership_iff (hm : e.token.test.isMembership = true) : e.Accepts ↔
    e.token.unsupported? = none ∧
      (e.subject.isUnset = true ∨ e.token.Admits (Check.submitted e.scope.stash e.subject)) := by
  cases hu : e.token.unsupported? with
  | some fault => simp [not_accepts_of_unsupported hu]
  | none =>
    have hj : e.token.test.judgesEmpty = false := by
      rcases Test.isMembership_iff.1 hm with ht | ht <;> rw [ht] <;> rfl
    simp only [Accepts, run, Check.value_evaluate_of_supported hu, hj, Bool.not_false, Bool.true_and, true_and]
    cases e.subject.isUnset with
    | true => simp
    | false => simp [Check.judge_membership_eq_ok_iff hm]

theorem accepts_required_iff (ht : e.token.test = .required) : e.Accepts ↔
    e.token.unsupported? = none ∧ Check.isPresent e.scope.stash e.subject = true := by
  cases hu : e.token.unsupported? with
  | some fault => simp [not_accepts_of_unsupported hu]
  | none =>
    have hj : e.token.test.judgesEmpty = true := by rw [ht]; rfl
    simp [Accepts, run, Check.value_evaluate_of_supported hu, hj, Check.judge_required_eq_ok_iff ht]

/-- A test that may see an array as one value leaves its subject, or finds that nothing was submitted. -/
theorem outcome_of_takesWholeArray (h : e.token.test.takesWholeArray = true) {outcome : Outcome}
    (ho : e.run.value = .ok outcome) : outcome = .accepted ∨ outcome = .empty ∧ e.subject.isUnset = true := by
  cases hu : e.token.unsupported? with
  | some fault => exact absurd ⟨outcome, ho⟩ (not_accepts_of_unsupported hu)
  | none =>
    rw [run, Check.value_evaluate_of_supported hu] at ho
    split at ho
    · rename_i hunset
      cases ho
      exact .inr ⟨rfl, (Bool.and_eq_true_iff.1 hunset).2⟩
    · rcases Test.takesWholeArray_iff.1 h with hm | ht
      · exact .inl ((Check.judge_membership_eq_ok_iff hm).1 ho).2
      · exact .inl ((Check.judge_required_eq_ok_iff ht).1 ho).2

end Evaluation

namespace Walk

variable {scope : Scope} {ts : List Token} {v : Value} {e : Evaluation}

theorem mem_evaluations (h : e ∈ evaluations scope ts v) : e.scope = scope ∧ e.token ∈ ts := by
  induction ts generalizing v with
  | nil => cases h
  | cons t ts ih =>
    unfold evaluations at h
    dsimp only at h
    split at h
    · rcases List.mem_cons.1 h with rfl | h
      · exact ⟨rfl, List.mem_cons_self⟩
      · exact ⟨(ih h).1, List.mem_cons_of_mem _ (ih h).2⟩
    · rw [List.mem_singleton.1 h]
      exact ⟨rfl, List.mem_cons_self⟩

/-! ## The stand-in of an array -/

/-- The stand-in of an array stays as it is. -/
theorem update_standIn {t : Token} (ht : t.test.takesWholeArray = true) {outcome : Outcome}
    (ho : (Evaluation.mk scope t (.text arrayMark)).run.value = .ok outcome) :
    outcome.update (.text arrayMark) = .text arrayMark := by
  have hset : (Subject.text arrayMark).isUnset = false := by decide
  rcases Evaluation.outcome_of_takesWholeArray ht ho with rfl | ⟨-, hunset⟩
  · rfl
  · exact absurd (hset.symm.trans hunset) Bool.false_ne_true

theorem subject_of_standIn (hts : ∀ t ∈ ts, t.test.takesWholeArray = true)
    (h : e ∈ evaluations scope ts (.text arrayMark)) : e.subject = .text arrayMark := by
  induction ts with
  | nil => cases h
  | cons t ts ih =>
    obtain ⟨ht, hts⟩ := List.forall_mem_cons.1 hts
    unfold evaluations at h
    dsimp only at h
    split at h
    · rename_i outcome ho
      rw [update_standIn ht ho] at h
      rcases List.mem_cons.1 h with rfl | h
      · rfl
      · exact ih hts h
    · rw [List.mem_singleton.1 h]
      rfl

/-- The stand-in of an array passes its checks just if it passes each of them. -/
theorem accepts_standIn_iff (hts : ∀ t ∈ ts, t.test.takesWholeArray = true) :
    (∀ e ∈ evaluations scope ts (.text arrayMark), e.Accepts) ↔
      ∀ t ∈ ts, (Evaluation.mk scope t (.text arrayMark)).Accepts := by
  induction ts with
  | nil => simp [evaluations]
  | cons t ts ih =>
    obtain ⟨ht, hts⟩ := List.forall_mem_cons.1 hts
    have hsubject : Subject.ofValue (.text arrayMark) = .text arrayMark := rfl
    rw [List.forall_mem_cons, ← ih hts, evaluations, hsubject]
    split
    · rename_i outcome ho
      rw [update_standIn ht ho, List.forall_mem_cons]
    · rename_i fault hfault
      have hrefused : ¬ (Evaluation.mk scope t (.text arrayMark)).Accepts := by
        rintro ⟨outcome, ho⟩
        rw [ho] at hfault
        cases hfault
      simp [hrefused]

/-! ## Tests that look at leaves only -/

theorem mem_checks_of_mem_leafChecks {rule : FieldRule} {t : Token} (h : t ∈ rule.leafChecks v) : t ∈ rule.checks := by
  unfold FieldRule.leafChecks at h
  split at h
  · exact List.mem_of_mem_filter h
  · exact h

section
variable {rule : FieldRule} {path : List String}

/-- A check that does not see an array as one value is put to leaves only. -/
theorem exists_place_of_leaf_test (h : e ∈ rule.evaluations scope path v) (ht : e.token.test.takesWholeArray = false) :
    ∃ place ∈ rule.placesOf path v, e ∈ evaluations (rule.scopeOf scope v) (rule.leafChecks v) place.2 := by
  rcases List.mem_append.1 h with hwhole | hplaces
  · unfold FieldRule.wholeEvaluations at hwhole
    split at hwhole
    · have htakes := (List.mem_filter.1 (mem_evaluations hwhole).2).2
      exact absurd (ht.symm.trans htakes) Bool.false_ne_true
    · cases hwhole
  · exact List.mem_flatMap.1 hplaces

/-- If no check finds a fault then each such check of the rule has accepted every leaf. -/
theorem exists_accepting_of_leaf_test (haccepts : ∀ e ∈ rule.evaluations scope path v, e.Accepts) {t : Token}
    (ht : t ∈ rule.checks) (hleaf : t.test.takesWholeArray = false) {place : List String × Value}
    (hplace : place ∈ rule.placesOf path v) :
    ∃ e ∈ evaluations (rule.scopeOf scope v) (rule.leafChecks v) place.2, e.token = t ∧ e.Accepts := by
  have hevaluations : ∀ e ∈ evaluations (rule.scopeOf scope v) (rule.leafChecks v) place.2, e.Accepts := fun e he =>
    haccepts e (List.mem_append_right _ (List.mem_flatMap.2 ⟨place, hplace, he⟩))
  have hchecks : t ∈ rule.leafChecks v := by
    unfold FieldRule.leafChecks
    split
    · exact List.mem_filter.2 ⟨ht, by simp [hleaf]⟩
    · exact ht
  rw [← tokens_evaluations hevaluations] at hchecks
  obtain ⟨e, he, htoken⟩ := List.mem_map.1 hchecks
  exact ⟨e, he, htoken, hevaluations e he⟩

end

end Walk

end FieldRules
