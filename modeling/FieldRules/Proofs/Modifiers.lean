import FieldRules.Proofs.Flaws
/-!
# Words that are no modifiers

A word among the modifiers of a token that its test does not know is read as an unknown modifier. A check refuses every
subject for it, and a conversion is flawed if the word comes first. But `null` and `notNull` look at no modifiers, and a
conversion at no other than the first. `Token.heard` is what a token looks at: an unknown modifier among that is always
a failure, and the others are as though they were not there (`Validation.unknown_refused`).
-/

namespace FieldRules

open FieldRules.Text

/-! ## Modifiers of tokens -/

namespace Test

theorem not_supports_unknown (test : Test) (word : String) : test.supports (.unknown word) = false := by
  cases test <;> rfl

/-- A word means one of the modifiers of a test, or nothing. -/
theorem modifier_cases (test : Test) (raw : String) :
    test.supports (test.modifier raw) = true ∨ ∃ word, test.modifier raw = .unknown word := by
  unfold modifier
  simp only
  split
  · rename_i m names hfind
    exact .inl (List.any_eq_true.2 ⟨_, List.mem_of_find?_eq_some hfind, beq_self_eq_true m⟩)
  · exact .inr ⟨_, rfl⟩

end Test

namespace Token

/-- The fault of the first modifier that the test of a token does not have. -/
def unsupported? (t : Token) : Option Fault :=
  (t.modifiers.find? fun m => !t.test.supports m).map fun m => .unsupportedModifier t.test.name m.name

theorem unsupported?_eq_none_iff {t : Token} :
    t.unsupported? = none ↔ ∀ m ∈ t.modifiers, t.test.supports m = true := by
  simp [unsupported?]

theorem mem_modifiers_ofCell {stash : PatternStash} {cell : String} {m : Modifier}
    (h : m ∈ (ofCell stash cell).modifiers) : ∃ raw, m = (ofCell stash cell).test.modifier raw := by
  unfold ofCell at h ⊢
  cases hcut : cutOnce ':' (trim cell) with
  | none => simp [hcut] at h
  | some parts =>
    simp only [hcut] at h ⊢
    split at h
    · obtain ⟨raw, -, rfl⟩ := List.mem_map.1 h
      exact ⟨raw, rfl⟩
    · cases h

/-- A modifier that was read is one of its test's, or unknown. -/
theorem modifier_of_tokenize {text : String} {t : Token} (ht : t ∈ tokenize text) {m : Modifier}
    (hm : m ∈ t.modifiers) : t.test.supports m = true ∨ ∃ word, m = .unknown word := by
  unfold tokenize at ht
  simp only at ht
  split at ht
  · obtain rfl := List.mem_singleton.1 ht
    cases hm
  · obtain ⟨cell, -, rfl⟩ := List.mem_map.1 ht
    obtain ⟨raw, hraw⟩ := mem_modifiers_ofCell hm
    rw [hraw]
    exact Test.modifier_cases _ raw

theorem kind_of_unsupported? {t : Token} {fault : Fault} (h : t.unsupported? = some fault) :
    fault.kind = .grammar := by
  obtain ⟨m, -, rfl⟩ := Option.map_eq_some_iff.1 h
  rfl

/-- A token that was read with an unknown modifier is not supported for one of these. -/
theorem unsupported?_of_tokenize {text : String} {t : Token} (ht : t ∈ tokenize text) {word : String}
    (h : .unknown word ∈ t.modifiers) : ∃ other, .unknown other ∈ t.modifiers ∧
      t.unsupported? = some (.unsupportedModifier t.test.name other) := by
  unfold unsupported?
  cases hfind : t.modifiers.find? fun m => !t.test.supports m with
  | none =>
    have hall := List.find?_eq_none.1 hfind _ h
    simp [Test.not_supports_unknown] at hall
  | some m =>
    have hmem := List.mem_of_find?_eq_some hfind
    have hunsupported := List.find?_some hfind
    obtain hs | ⟨other, rfl⟩ := modifier_of_tokenize ht hmem
    · simp [hs] at hunsupported
    · exact ⟨other, hmem, rfl⟩

/-- The modifiers that are looked at: a conversion looks at its first, and the treatments of blanks at none. -/
def heard (t : Token) : List Modifier :=
  match t.test with
  | .format => t.modifiers.take 1
  | .null | .notNull => []
  | _ => t.modifiers

/-- The token without the modifiers that nothing looks at. -/
def obeyed (t : Token) : Token := { t with modifiers := t.heard }

theorem obeyed_of_not_deferred {t : Token} (h : t.test.isDeferred = false) : t.obeyed = t := by
  unfold obeyed heard
  split
  · simp_all [Test.isDeferred]
  · simp_all [Test.isDeferred]
  · simp_all [Test.isDeferred]
  · rfl

/-- A conversion that looks at an unknown modifier is flawed. -/
theorem flaw?_of_heard {t : Token} (hd : t.test.isDeferred = true) (hi : t.test ≠ .ignore) {word : String}
    (h : .unknown word ∈ t.heard) : t.flaw? ≠ none := by
  unfold heard at h
  split at h
  · rename_i ht
    rcases hm : t.modifiers with _ | ⟨m, ms⟩
    · simp [hm] at h
    · obtain rfl : .unknown word = m := by simpa [hm] using h
      simp [flaw?, ht, Target.ofToken, hm]
  · cases h
  · cases h
  · cases ht : t.test <;> simp_all [Test.isDeferred]

theorem ofToken_obeyed {t : Token} (h : t.test = .format) : Target.ofToken t.obeyed = Target.ofToken t := by
  have hheard : t.obeyed.modifiers = t.modifiers.take 1 := by simp only [obeyed, heard, h]
  unfold Target.ofToken
  rw [hheard]
  rcases t.modifiers with _ | ⟨m, ms⟩
  · rfl
  · cases m <;> rfl

end Token

/-! ## Rules -/

/-- A check refuses every subject for a modifier that its test does not have. -/
theorem Check.evaluate_of_unsupported {t : Token} {fault : Fault} (h : t.unsupported? = some fault) (scope : Scope)
    (s : Subject) : (evaluate scope t s).outcome = .silent (.error fault) := by
  obtain ⟨m, hm, rfl⟩ := Option.map_eq_some_iff.1 h
  unfold evaluate
  rw [hm]
  rfl

/-- A check that refuses every subject ends the checks of a leaf, if none before it does. -/
theorem Walk.checkLeaf_of_refused {scope : Scope} {t : Token} {fault : Fault}
    (h : ∀ s, (Check.evaluate scope t s).outcome.value = .error fault) (path : List String) (before after : List Token)
    (v : Value) : ∃ first, (checkLeaf scope path (before ++ t :: after) v).value.2 =
        some { fault := first, field := some (pathText path) } ∧
      ((∃ e ∈ evaluations scope before v, e.run.value = .error first) ∨ first = fault) := by
  induction before generalizing v with
  | nil =>
    rw [List.nil_append, checkLeaf, Traced.value_bind, h]
    exact ⟨_, rfl, .inr rfl⟩
  | cons u before ih =>
    rw [List.cons_append, checkLeaf, Traced.value_bind, evaluations]
    cases hu : (Check.evaluate scope u (.ofValue v)).outcome.value with
    | ok outcome =>
      obtain ⟨first, hfirst, hfault⟩ := ih (outcome.update v)
      simp only [Evaluation.run, hu]
      refine ⟨first, hfirst, hfault.imp_left ?_⟩
      rintro ⟨e, he, hrun⟩
      exact ⟨e, .tail _ he, hrun⟩
    | error first =>
      simp only [Evaluation.run, hu]
      exact ⟨_, rfl, .inl ⟨_, .head _, hu⟩⟩

namespace FieldRule

theorem add_obeyed (rule : FieldRule) (t : Token) : rule.add t.obeyed = rule.add t := by
  cases hd : t.test.isDeferred with
  | false => rw [Token.obeyed_of_not_deferred hd]
  | true =>
    have htest : t.obeyed.test = t.test := rfl
    unfold add Deferred.ofToken?
    rw [htest]
    cases ht : t.test <;> simp_all [Test.isDeferred, Token.ofToken_obeyed]

/-- The modifiers that nothing looks at do not matter to a rule. -/
theorem ofTokens_map_obeyed (tokens : List Token) : ofTokens (tokens.map Token.obeyed) = ofTokens tokens := by
  have hfold : ∀ rule : FieldRule, (tokens.map Token.obeyed).foldlM add rule = tokens.foldlM add rule := by
    intro rule
    rw [List.foldlM_map]
    exact congrArg (fun step => tokens.foldlM step rule) (funext fun rule => funext fun t => add_obeyed rule t)
  have hmembership : ∀ t : Token, (t.obeyed.test.isMembership && !t.obeyed.modifiers.isEmpty) =
      (t.test.isMembership && !t.modifiers.isEmpty) := by
    intro t
    cases hd : t.test.isDeferred with
    | false => rw [Token.obeyed_of_not_deferred hd]
    | true =>
      have hm : t.test.isMembership = false := by cases ht : t.test <;> simp_all [Test.isDeferred, Test.isMembership]
      simp [show t.obeyed.test = t.test from rfl, hm]
  have hhead : (tokens.map Token.obeyed).head?.any (fun t => t.test.isMembership && !t.modifiers.isEmpty) =
      tokens.head?.any fun t => t.test.isMembership && !t.modifiers.isEmpty := by
    cases tokens with
    | nil => rfl
    | cons t ts => exact hmembership t
  have hpresence : (tokens.map Token.obeyed).any (·.test.demandsPresence) = tokens.any (·.test.demandsPresence) :=
    List.any_map
  unfold ofTokens
  rw [hfold, hhead, hpresence]

end FieldRule

/-- A check that looks at an unknown modifier refuses every text, unless a check before it does. -/
theorem FieldRule.result_of_heard {text : String} {rule : FieldRule} (hmade : ofTokens (tokenize text) = .ok rule)
    (hi : rule.ignore = false) {before after : List Token} {t : Token} (hread : tokenize text = before ++ t :: after)
    {word : String} (hword : .unknown word ∈ t.heard) (scope : Scope) (s : String) :
    ∃ fault, rule.result scope s = .error { fault, field := some "value" } ∧
      ((∃ e ∈ Walk.evaluations scope (before.filter fun u => !u.test.isDeferred) (.text s), e.run.value = .error fault) ∨
        ∃ other, .unknown other ∈ t.heard ∧ fault = .unsupportedModifier t.test.name other) := by
  have ht : t ∈ tokenize text := by simp [hread]
  have hd : t.test.isDeferred = false := by
    by_contra hd
    have hnotIgnore : t.test ≠ .ignore := by
      intro hti
      rw [(ignore_iff_tokenize hmade).2 (tokenize_of_ignore_mem ht hti)] at hi
      cases hi
    -- Of the deferred tests only a conversion hears a modifier, and it would be flawed.
    have hflaw := List.findSome?_eq_none_iff.1 (findSome?_flaw?_of_ofTokens hmade) t ht
    exact Token.flaw?_of_heard (by simpa using hd) hnotIgnore hword hflaw
  have hheard : t.heard = t.modifiers := congrArg Token.modifiers (Token.obeyed_of_not_deferred hd)
  obtain ⟨other, hother, hunsupported⟩ := Token.unsupported?_of_tokenize ht (hheard ▸ hword)
  have hchecks : rule.checks = (before.filter fun u => !u.test.isDeferred) ++
      t :: after.filter fun u => !u.test.isDeferred := by
    simp [eq_compiled hmade, compiled, hread, hd]
  have hrefused : ∀ subject, (Check.evaluate scope t subject).outcome.value =
      .error (.unsupportedModifier t.test.name other) := by
    intro subject
    rw [Check.evaluate_of_unsupported hunsupported]
    rfl
  obtain ⟨fault, hf, hfault⟩ := Walk.checkLeaf_of_refused hrefused ["value"]
    (before.filter fun u => !u.test.isDeferred) (after.filter fun u => !u.test.isDeferred) (.text s)
  refine ⟨fault, result_of_failure (hchecks ▸ hf), hfault.imp_right fun he => ⟨other, ?_, he⟩⟩
  rw [hheard]
  exact hother

namespace Validation

/-- A rule that is not turned off refuses every text if an unknown modifier of one of its tokens is looked at: for such
a modifier of that token, or for what a check before it finds, or for a flaw among the tokens, which are sorted first.
An unknown modifier that nothing looks at is as though it were not there. -/
theorem unknown_refused (engine : Validation) {text : String} (hon : tokenize text ≠ [{ test := .ignore }]) :
    (∀ before t after word, tokenize text = before ++ t :: after → .unknown word ∈ t.heard → ∀ v, ∃ fault,
      (engine.validateValue v text).value = (engine.conclude { fault, field := some "value" }).value ∧
        ((tokenize text).findSome? Token.flaw? = some fault ∨
          (∃ e ∈ Walk.evaluations engine.scope (before.filter fun u => !u.test.isDeferred) (.text v),
            e.run.value = .error fault) ∨
          ∃ other, .unknown other ∈ t.heard ∧ fault = .unsupportedModifier t.test.name other)) ∧
    ∀ text', tokenize text' = (tokenize text).map Token.obeyed →
      ∀ v, engine.validateValue v text' = engine.validateValue v text := by
  constructor
  · intro before t after word hread hword v
    cases hmade : FieldRule.ofTokens (tokenize text) with
    | error fault =>
      refine ⟨fault, ?_, .inl (FieldRule.ofTokens_eq_error_iff.1 hmade)⟩
      rw [validateValue_of_flawed hmade]
    | ok rule =>
      have hi : rule.ignore = false := by
        rw [Bool.eq_false_iff]
        intro hi
        exact hon ((FieldRule.ignore_iff_tokenize hmade).1 hi)
      obtain ⟨fault, hresult, hfault⟩ := FieldRule.result_of_heard hmade hi hread hword engine.scope v
      refine ⟨fault, ?_, .inr hfault⟩
      rw [value_validateValue_of_rule hmade hi, hresult]
  · intro text' hread v
    refine validateValue_congr ?_ v
    rw [hread, FieldRule.ofTokens_map_obeyed]

theorem unknown_refused_alpha :
    tokenize "alpha:zz;format:float,zz" ≠ [{ test := .ignore }] ∧
      (∀ v, (alone.validateValue v "alpha:zz;format:float,zz").value =
        .ok (.invalid { fault := .unsupportedModifier "Alpha" "zz", field := some "value" })) ∧
      ∀ v, alone.validateValue v "alpha:zz;format:float" = alone.validateValue v "alpha:zz;format:float,zz" := by
  have hread : tokenize "alpha:zz;format:float,zz" =
      [{ test := .alpha, modifiers := [.unknown "zz"] }, { test := .format, modifiers := [.float, .unknown "zz"] }] := by
    rw [tokenize_of_ascii (by decide) (by decide)]
    decide
  have hless : tokenize "alpha:zz;format:float" =
      [{ test := .alpha, modifiers := [.unknown "zz"] }, { test := .format, modifiers := [.float] }] := by
    rw [tokenize_of_ascii (by decide) (by decide)]
    decide
  have hon : tokenize "alpha:zz;format:float,zz" ≠ [{ test := .ignore }] := by
    rw [hread]
    decide
  obtain ⟨hrefused, hsame⟩ := unknown_refused alone hon
  refine ⟨hon, fun v => ?_, hsame _ (by rw [hread, hless]; rfl)⟩
  have hheard : .unknown "zz" ∈ Token.heard { test := .alpha, modifiers := [.unknown "zz"] } := .head _
  obtain ⟨fault, hverdict, hfault⟩ := hrefused [] _ _ "zz" hread hheard v
  obtain rfl : fault = .unsupportedModifier "Alpha" "zz" := by
    rcases hfault with hflaw | ⟨e, he, -⟩ | ⟨other, hother, rfl⟩
    · rw [hread] at hflaw
      cases hflaw
    · cases he
    · obtain rfl : other = "zz" := by simpa [Token.heard] using hother
      rfl
  exact hverdict

/-- Where no one looks at a modifier, a word that is none is accepted. -/
theorem unheard_accepted :
    (∀ text ∈ ["null:zz", "notnull:zz", "format:float,zz"], tokenize text ≠ [{ test := .ignore }] ∧
      ∃ t ∈ tokenize text, .unknown "zz" ∈ t.modifiers) ∧
      (alone.validateValue "x" "null:zz").value = .ok (.valid (.map [("value", .text "x")])) ∧
      (alone.validateValue "x" "notnull:zz").value = .ok (.valid (.map [("value", .text "x")])) ∧
      ∃ x, (alone.validateValue "5" "format:float,zz").value = .ok (.valid (.map [("value", .float x)])) := by
  refine ⟨by decide +kernel, by decide +kernel, by decide +kernel, Binary64.ofInt 5, ?_⟩
  decide +kernel

end Validation

end FieldRules
