import FieldRules.Proofs.Delivery
/-!
# Blank leaves that must not be null

The acts of a leaf are done in the order of the rule. On a blank leaf nothing happens up to the first `notNull`, except
that the leaf may become null; `notNull` writes the mark, which is delivered as the empty text. But a conversion after it
takes the mark for what was submitted. So a blank leaf is delivered empty just if no conversion to another type than
text comes after `notNull` (`Validation.notNull_blank`).
-/

namespace FieldRules

namespace Deferred

/-! ## The mark under acts -/

/-- What an act finds wrong with the mark: a conversion to another type than text does not take it. -/
def refusal? : Deferred → Option Fault
  | .format .string => none
  | .format target => some (.notConvertible notNullMark target)
  | .null | .notNull => none

/-- What the acts after the first `notNull` find wrong with the mark. -/
def markRefusal? (acts : List Deferred) : Option Fault := (acts.dropWhile (· != .notNull)).findSome? refusal?

theorem convertScalar_mark {target : Target} (h : target ≠ .string) :
    target.convertScalar (.text notNullMark) notNullMark = .error (.notConvertible notNullMark target) := by
  have htrim : Text.trim notNullMark = notNullMark := by decide
  have hfloat : (parseFiniteFloat (normalizeDecimal notNullMark)).toOption = none := by decide
  have hnone : target.ofText? notNullMark = none := by
    cases target with
    | string => rfl
    | integer => decide
    | float => simp [Target.ofText?, hfloat]
    | round precision => simp [Target.ofText?, hfloat]
    | boolean => decide
    | dateTime => decide
  unfold Target.convertScalar
  split
  · exact absurd rfl h
  · rename_i he
    cases he
  · rw [htrim, hnone]

/-- An act leaves the mark as it is or refuses it. -/
theorem act_mark (d : Deferred) : d.act (.text notNullMark) =
    match d.refusal? with
    | none => .ok (.text notNullMark)
    | some fault => .error fault := by
  have hblank : (Value.text notNullMark).isBlank = false := by decide
  have hnullish : (Value.text notNullMark).isNullish = false := by decide
  cases d with
  | format target =>
    have hconvert : target.convert (.text notNullMark) = target.convertScalar (.text notNullMark) notNullMark := by
      simp only [Target.convert, hblank, Bool.false_eq_true, if_false]
      rfl
    rw [act, hconvert]
    cases target with
    | string => rfl
    | _ => exact convertScalar_mark (by simp)
  | null => simp [act, refusal?, hblank]
  | notNull => simp [act, refusal?, hnullish]

theorem actAll_mark (acts : List Deferred) :
    actAll acts (.text notNullMark) = (.text notNullMark, acts.findSome? refusal?) := by
  induction acts with
  | nil => rfl
  | cons d acts ih =>
    rw [actAll, act_mark, List.findSome?_cons]
    cases d.refusal? with
    | none => exact ih
    | some fault => rfl

/-! ## Blank leaves -/

theorem markRefusal?_cons_notNull (acts : List Deferred) :
    markRefusal? (.notNull :: acts) = acts.findSome? refusal? := by
  simp [markRefusal?, List.findSome?_cons, refusal?]

theorem markRefusal?_cons_of_ne {d : Deferred} (h : d ≠ .notNull) (acts : List Deferred) :
    markRefusal? (d :: acts) = markRefusal? acts := by
  simp [markRefusal?, h]

/-- Acts other than `notNull` leave a blank leaf blank or make it null. -/
theorem act_blank {d : Deferred} (hd : d ≠ .notNull) {v : Value} (hv : v.isBlank = true ∨ v = .null) :
    ∃ w, d.act v = .ok w ∧ (w.isBlank = true ∨ w = .null) := by
  cases d with
  | format target =>
    refine ⟨v, ?_, hv⟩
    rcases hv with hv | rfl
    · cases v <;> simp_all [act, Target.convert, Value.isBlank]
    · rfl
  | null =>
    rcases hv with hv | rfl
    · exact ⟨.null, by simp [act, hv], .inr rfl⟩
    · exact ⟨.null, rfl, .inr rfl⟩
  | notNull => exact absurd rfl hd

/-- Acts with `notNull` among them make the mark of a blank leaf, and go on with that. -/
theorem actAll_blank {acts : List Deferred} (hn : .notNull ∈ acts) {v : Value} (hv : v.isBlank = true ∨ v = .null) :
    actAll acts v = (.text notNullMark, markRefusal? acts) := by
  induction acts generalizing v with
  | nil => cases hn
  | cons d acts ih =>
    by_cases hd : d = .notNull
    · have hnullish : v.isNullish = true := by
        rcases hv with hv | rfl
        · cases v <;> simp_all [Value.isBlank, Value.isNullish]
        · rfl
      rw [hd, actAll, act, if_pos hnullish, markRefusal?_cons_notNull]
      exact actAll_mark acts
    · obtain ⟨w, hact, hw⟩ := act_blank hd hv
      rw [actAll, hact, markRefusal?_cons_of_ne hd]
      exact ih ((List.mem_cons.1 hn).resolve_left (Ne.symm hd)) hw

/-- What refuses the mark is a conversion after `notNull`, to another type than text. -/
theorem markRefusal?_eq_some {acts : List Deferred} {fault : Fault} (h : markRefusal? acts = some fault) :
    ∃ target, target ≠ .string ∧ [.notNull, .format target].Sublist acts ∧ fault = .notConvertible notNullMark target := by
  induction acts with
  | nil => cases h
  | cons d acts ih =>
    by_cases hd : d = .notNull
    · rw [hd, markRefusal?_cons_notNull] at h
      obtain ⟨e, he, hfault⟩ := List.exists_of_findSome?_eq_some h
      rw [hd]
      cases e with
      | format target =>
        refine ⟨target, ?_, (List.singleton_sublist.2 he).cons_cons _, ?_⟩ <;> cases target <;> simp_all [refusal?]
      | null => cases hfault
      | notNull => cases hfault
    · rw [markRefusal?_cons_of_ne hd] at h
      obtain ⟨target, htarget, hsub, hfault⟩ := ih h
      exact ⟨target, htarget, hsub.cons d, hfault⟩

/-- Nothing refuses the mark just if every conversion after `notNull` is to text. -/
theorem markRefusal?_eq_none_iff {acts : List Deferred} :
    markRefusal? acts = none ↔ ∀ target, [.notNull, .format target].Sublist acts → target = .string := by
  constructor
  · intro h target hsub
    induction acts with
    | nil => cases hsub
    | cons d acts ih =>
      by_cases hd : d = .notNull
      · rw [hd, markRefusal?_cons_notNull] at h
        have hmem : .format target ∈ acts := by
          cases hsub with
          | cons _ hsub => exact hsub.subset (by simp)
          | cons_cons _ hsub => exact List.singleton_sublist.1 hsub
        have hnone := List.findSome?_eq_none_iff.1 h _ hmem
        cases target <;> simp_all [refusal?]
      · rw [markRefusal?_cons_of_ne hd] at h
        cases hsub with
        | cons _ hsub => exact ih h hsub
        | cons_cons _ _ => exact absurd rfl hd
  · intro h
    refine Option.eq_none_iff_forall_ne_some.2 fun fault hfault => ?_
    obtain ⟨target, htarget, hsub, -⟩ := markRefusal?_eq_some hfault
    exact htarget (h target hsub)

end Deferred

/-! ## Calls -/

namespace Validation

theorem deliverText?_mark (policy : Policy) : policy.deliverText? notNullMark = some "" :=
  Policy.deliverText?_eq_empty.2 (by simp [Policy.cleanText])

/-- The mark is delivered as the empty text wherever it stands, outside the fields that are passed through. -/
theorem deliver_mark {policy : Policy} {set : RuleSet} {fields : List (String × Value)} {key : String}
    {path : List String} (hkey : key ∉ set.ignored) (hp : key ≠ policyKey)
    (h : (Value.map fields).At (key :: path) (.text notNullMark)) :
    (deliver policy set (.map fields)).At (key :: path) (.text "") := by
  rw [deliver_map]
  exact (deliveredFields_text_at hkey).2 ⟨hp, _, h, deliverText?_mark policy⟩

/-- On a blank leaf, acts with `notNull` among them always come to the mark, which is delivered as the empty text. They
fail just if a conversion to another type than text comes after `notNull`, because it refuses the mark. So a text that
is blank after the checks of its rule is delivered as the empty text, unless such a conversion fails the call. -/
theorem notNull_blank (engine : Validation) {acts : List Deferred} (hn : .notNull ∈ acts) :
    (∀ v : Value, v.isBlank = true ∨ v = .null →
      Deferred.actAll acts v = (.text notNullMark, Deferred.markRefusal? acts)) ∧
    (Deferred.markRefusal? acts = none ↔ ∀ target, [.notNull, .format target].Sublist acts → target = .string) ∧
    (∀ fault, Deferred.markRefusal? acts = some fault → ∃ target, target ≠ .string ∧
      [.notNull, .format target].Sublist acts ∧ fault = .notConvertible notNullMark target) ∧
    (∀ (policy : Policy) (set : RuleSet) (fields : List (String × Value)) (key : String) (path : List String),
      key ∉ set.ignored → key ≠ policyKey → (Value.map fields).At (key :: path) (.text notNullMark) →
        (deliver policy set (.map fields)).At (key :: path) (.text "")) ∧
    ∀ text rule s w, FieldRule.ofTokens (tokenize text) = .ok rule → rule.ignore = false → rule.acts = acts →
      (Walk.checkLeaf engine.scope ["value"] rule.checks (.text s)).value = (w, none) → w.isBlank = true →
      (engine.validateValue s text).value =
        match Deferred.markRefusal? acts with
        | none => .ok (.valid (.map [("value", .text "")]))
        | some fault => (engine.conclude { fault, field := some "value" }).value := by
  refine ⟨fun v hv => Deferred.actAll_blank hn hv, Deferred.markRefusal?_eq_none_iff,
    fun fault hfault => Deferred.markRefusal?_eq_some hfault,
    fun policy set fields key path hkey hp h => deliver_mark hkey hp h, ?_⟩
  intro text rule s w hmade hi hacts hchecks hw
  have hdone : Deferred.actAll rule.acts w = (.text notNullMark, Deferred.markRefusal? acts) :=
    hacts ▸ Deferred.actAll_blank hn (.inl hw)
  rw [value_validateValue_of_rule hmade hi, FieldRule.result, hchecks]
  simp only [hdone]
  cases Deferred.markRefusal? acts with
  | none =>
    simp only [deliver_value hi, deliverText?_mark]
    rfl
  | some fault => rfl

theorem notNull_blank_value :
    let acts : List Deferred := [.format .integer, .null, .notNull, .format .string]
    .notNull ∈ acts ∧ Deferred.actAll acts .null = (.text notNullMark, none) ∧
      Deferred.actAll acts (.text emptyPlaceholder) = (.text notNullMark, none) ∧
      (alone.validateValue " " "format:integer;null;notnull;format:string").value =
        .ok (.valid (.map [("value", .text "")])) := by
  intro acts
  have hmem : .notNull ∈ acts := by decide
  obtain ⟨hacts, -, -, -, hcall⟩ := notNull_blank alone hmem
  have hnone : Deferred.markRefusal? acts = none := rfl
  refine ⟨hmem, (hacts _ (.inr rfl)).trans (by rw [hnone]), (hacts _ (.inl (by decide))).trans (by rw [hnone]), ?_⟩
  have hmade : FieldRule.ofTokens (tokenize "format:integer;null;notnull;format:string") =
      .ok { acts, demandsPresence := true } := by
    rw [tokenize_of_ascii (by decide) (by decide)]
    decide
  have hverdict := hcall _ _ " " (.text " ") hmade rfl rfl rfl (by decide)
  rwa [hnone] at hverdict

/-- A conversion after `notNull` fails on what was left blank, and before it does not. -/
theorem notNull_then_integer_fails :
    Deferred.actAll [.notNull, .format .integer] (.text "") =
        (.text notNullMark, some (.notConvertible notNullMark .integer)) ∧
      (alone.validateValue "" "notnull;format:integer").value =
        .ok (.invalid { fault := .notConvertible notNullMark .integer, field := some "value" }) ∧
      (alone.validateValue "" "format:integer;notnull").value = .ok (.valid (.map [("value", .text "")])) := by
  have hfails : FieldRule.ofTokens (tokenize "notnull;format:integer") =
      .ok { acts := [.notNull, .format .integer], demandsPresence := true } := by
    rw [tokenize_of_ascii (by decide) (by decide)]
    decide
  have hends : FieldRule.ofTokens (tokenize "format:integer;notnull") =
      .ok { acts := [.format .integer, .notNull], demandsPresence := true } := by
    rw [tokenize_of_ascii (by decide) (by decide)]
    decide
  refine ⟨rfl, ?_, ?_⟩
  · rw [value_validateValue_of_rule hfails rfl]
    rfl
  · let made : FieldRule := { acts := [.format .integer, .notNull], demandsPresence := true }
    have hresult : made.result alone.scope "" = .ok (.text notNullMark) := rfl
    have hi : made.ignore = false := rfl
    rw [value_validateValue_of_rule hends hi, hresult]
    rfl

end Validation

end FieldRules
