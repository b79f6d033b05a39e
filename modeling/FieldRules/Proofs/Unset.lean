import FieldRules.Proofs.Modifiers
/-!
# Fields on which nothing was submitted

A check of the empty text or of the mark for what was not sent looks at no one and judges nothing but presence: it
passes over the text, unless it has a modifier that its test does not have, or is `required` (`evaluate_unset`). So the
walk of such a field makes no call, and it fails only for one of these two reasons (`Walk.unset_walk`).
-/

namespace FieldRules

/-! ## One check -/

/-- What a check finds wrong where nothing was submitted. -/
def Token.faultOnUnset? (t : Token) : Option Fault :=
  t.unsupported?.or (if t.test = .required then some .valueMissing else none)

theorem Token.faultOnUnset?_cases {t : Token} {fault : Fault} (h : t.faultOnUnset? = some fault) :
    t.unsupported? = some fault ∨ t.test = .required ∧ fault = .valueMissing := by
  rcases Option.or_eq_some_iff.1 h with h | ⟨-, h⟩
  · exact .inl h
  · split at h
    · rename_i ht
      cases h
      exact .inr ⟨ht, rfl⟩
    · cases h

theorem required_unset {s : String} (hs : isUnset s = true) (scope : Scope) :
    Check.required scope (.text s) = .error .valueMissing := by
  rcases (by simpa [isUnset] using hs : s = "" ∨ s = emptyMark) with rfl | rfl <;> rfl

/-- A check passes over what was not submitted, or refuses it. It calls no one. -/
theorem Check.evaluate_unset {s : String} (hs : isUnset s = true) (scope : Scope) (t : Token) :
    (evaluate scope t (.text s)).outcome = .silent (match t.faultOnUnset? with
      | some fault => .error fault
      | none => .ok .empty) := by
  cases hu : t.unsupported? with
  | some fault =>
    rw [evaluate_of_unsupported hu, Token.faultOnUnset?, hu]
    rfl
  | none =>
    have hfind : t.modifiers.find? (fun m => !t.test.supports m) = none := by simpa [Token.unsupported?] using hu
    have hunset : (Subject.text s).isUnset = true := hs
    unfold evaluate Token.faultOnUnset?
    rw [hfind, hu, hunset]
    by_cases hrequired : t.test = .required
    · simp only [hrequired, Test.judgesEmpty, judge, required_unset hs]
      rfl
    · by_cases hfile : t.test = .file
      · simp only [hfile, Test.judgesEmpty, judge, file, hunset]
        rfl
      · have hj : t.test.judgesEmpty = false := by cases ht : t.test <;> simp_all [Test.judgesEmpty]
        simp only [if_neg hrequired, hj]
        rfl

/-! ## The checks of a field -/

namespace Walk

/-- The checks of what was not submitted end with the first that refuses it. If none does, they leave the mark for what
was not sent, unless there are none. -/
theorem checkLeaf_unset (path : List String) (ts : List Token) {s : String} (hs : isUnset s = true) :
    ∃ w, (∀ scope, checkLeaf scope path ts (.text s) =
        .silent (w, (ts.findSome? Token.faultOnUnset?).map fun fault => { fault, field := some (pathText path) })) ∧
      (ts.findSome? Token.faultOnUnset? = none → w = if ts = [] then .text s else Value.empty) := by
  induction ts generalizing s with
  | nil => exact ⟨.text s, fun _ => rfl, fun _ => rfl⟩
  | cons t ts ih =>
    cases hfault : t.faultOnUnset? with
    | some fault =>
      refine ⟨.text s, fun scope => ?_, fun hnone => ?_⟩
      · rw [checkLeaf, show Subject.ofValue (.text s) = .text s from rfl, Check.evaluate_unset hs, hfault,
          List.findSome?_cons, hfault]
        rfl
      · simp [hfault] at hnone
    | none =>
      -- The text gives way to the mark, which is no more submitted than the text was.
      obtain ⟨w, hrest, hw⟩ := ih (s := emptyMark) (by decide)
      refine ⟨w, fun scope => ?_, fun hnone => ?_⟩
      · rw [checkLeaf, show Subject.ofValue (.text s) = .text s from rfl, Check.evaluate_unset hs, hfault,
          List.findSome?_cons, hfault]
        exact hrest scope
      · rw [List.findSome?_cons, hfault] at hnone
        rw [hw hnone]
        split <;> simp [Value.empty]

/-- The walk of a field on which nothing was submitted goes the same way in every scope, and calls no one. It may end
well: then no token of the rule is `required`, the acts of the rule are noted, and the field holds the mark for what was
not sent, unless the rule has no checks, in which case it keeps what it held. Otherwise it fails for a modifier that a
test of the rule does not have, which is a fault of the rule and not of the data, or because the rule has the test
`required`. -/
theorem unset_walk {text : String} {rule : FieldRule} (hmade : FieldRule.ofTokens (tokenize text) = .ok rule)
    (hi : rule.ignore = false) {s : String} (hs : s = "" ∨ s = emptyMark) {name : String}
    {tree : List (String × Value)} (hv : Keyed.get? tree name = some (.text s)) :
    ∃ walked, (∀ scope, fields scope [(name, rule)] tree = .silent walked) ∧
      ((walked.outcome = .ok [⟨[name], rule.acts⟩] ∧ (∀ t ∈ tokenize text, t.test ≠ .required) ∧
          walked.value = Keyed.put tree name (if rule.checks = [] then .text s else Value.empty)) ∨
        ∃ fault, walked.outcome = .error { fault, field := some name } ∧
          (fault.kind = .grammar ∧ (∃ t ∈ tokenize text, t.unsupported? = some fault) ∨
            fault = .valueMissing ∧ ∃ t ∈ tokenize text, t.test = .required)) := by
  have hunset : isUnset s = true := by simpa [isUnset] using hs
  obtain ⟨w, hchecks, hw⟩ := checkLeaf_unset [name] rule.checks hunset
  have hwalk : ∀ scope, fields scope [(name, rule)] tree =
      .silent ⟨Keyed.put tree name w, match rule.checks.findSome? Token.faultOnUnset? with
        | some fault => .error { fault, field := some name }
        | none => .ok [⟨[name], rule.acts⟩]⟩ := by
    intro scope
    have hfield : field scope rule [name] (.text s) = leaf scope rule.checks rule.acts [name] (.text s) := rfl
    have hname : pathText [name] = name := by simp [pathText, Text.join]
    rw [fields_singleton hi hv, hfield, leaf, hchecks scope, hname]
    cases rule.checks.findSome? Token.faultOnUnset? <;> rfl
  cases hfault : rule.checks.findSome? Token.faultOnUnset? with
  | none =>
    simp only [hfault] at hwalk
    refine ⟨_, hwalk, .inl ⟨rfl, fun t ht hrequired => ?_, ?_⟩⟩
    · have hcheck : t ∈ rule.checks := (FieldRule.mem_checks_iff hmade).2 ⟨ht, by rw [hrequired]; rfl⟩
      have hnone := List.findSome?_eq_none_iff.1 hfault t hcheck
      simp [Token.faultOnUnset?, hrequired] at hnone
    · rw [← hw hfault]
  | some fault =>
    simp only [hfault] at hwalk
    refine ⟨_, hwalk, .inr ⟨fault, rfl, ?_⟩⟩
    obtain ⟨t, hcheck, hcase⟩ := List.exists_of_findSome?_eq_some hfault
    have ht : t ∈ tokenize text := ((FieldRule.mem_checks_iff hmade).1 hcheck).1
    rcases Token.faultOnUnset?_cases hcase with h | ⟨h, rfl⟩
    · exact .inl ⟨Token.kind_of_unsupported? h, t, ht, h⟩
    · exact .inr ⟨rfl, t, ht, h⟩

theorem unset_walk_nickname :
    let rule : FieldRule := {
      checks := [{ test := .alpha, modifiers := [.only] }, { test := .maxLength, values := ["9"] }]
      acts := [.format .string] }
    FieldRule.ofTokens (tokenize "alpha:only;maxlength:9;format:string") = .ok rule ∧ rule.ignore = false ∧
      ∃ walked, (∀ scope, fields scope [("nickname", rule)] [("nickname", .text "")] = .silent walked) ∧
        walked.outcome = .ok [⟨["nickname"], [.format .string]⟩] ∧ walked.value = [("nickname", Value.empty)] := by
  intro rule
  have hread : tokenize "alpha:only;maxlength:9;format:string" = [{ test := .alpha, modifiers := [.only] },
      { test := .maxLength, values := ["9"] }, { test := .format, modifiers := [.string] }] := by
    rw [tokenize_of_ascii (by decide) (by decide)]
    decide
  have hmade : FieldRule.ofTokens (tokenize "alpha:only;maxlength:9;format:string") = .ok rule := by
    rw [hread]
    rfl
  obtain ⟨walked, hwalk, ⟨hok, -, hvalue⟩ | ⟨fault, -, ⟨-, t, ht, hfault⟩ | ⟨-, t, ht, hrequired⟩⟩⟩ :=
    unset_walk hmade rfl (.inl rfl) (rfl : Keyed.get? [("nickname", Value.text "")] "nickname" = some (.text ""))
  · exact ⟨hmade, rfl, walked, hwalk, hok, hvalue⟩
  · rw [hread] at ht
    simp only [List.mem_cons, List.not_mem_nil, or_false] at ht
    rcases ht with rfl | rfl | rfl <;> cases hfault
  · rw [hread] at ht
    simp only [List.mem_cons, List.not_mem_nil, or_false] at ht
    rcases ht with rfl | rfl | rfl <;> cases hrequired

end Walk

end FieldRules
