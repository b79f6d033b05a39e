import FieldRules.Engine.Validation
import FieldRules.Proofs.Entries
/-!
# What the rules of a call say

`FieldRule.compiled` reads off a list of tokens which of them check, which act later, and what they say of
the whole field; `FieldRule.eq_compiled` says that sorting the tokens one by one comes to that. `RuleHas` is
the view of a call's rules in which later modules state their results: some token of a field has a test.
-/

namespace FieldRules

/-! ## The rule of one field -/

namespace FieldRule

/-- The act of a token, if it has one that makes sense. -/
def actOf? (t : Token) : Option Deferred := (Deferred.ofToken? t).toOption.join

/-- The rule of tokens that all make sense. -/
def compiled (tokens : List Token) : FieldRule where
  ignore := tokens.any (·.test == .ignore)
  checks := tokens.filter fun t => !t.test.isDeferred
  acts := tokens.filterMap actOf?
  wholeArray := tokens.head?.any fun t => t.test.isMembership && !t.modifiers.isEmpty
  demandsPresence := tokens.any (·.test.demandsPresence)

/-- The rule of a text whose tokens all make sense. -/
def compiledText (text : String) : FieldRule := compiled (tokenize text)

theorem actOf?_of_not_deferred {t : Token} (h : t.test.isDeferred = false) : actOf? t = none := by
  unfold actOf? Deferred.ofToken?
  split <;> simp_all [Test.isDeferred, Except.toOption]

/-- What one token adds to a rule. -/
theorem add_ok {rule rule' : FieldRule} {t : Token} (h : rule.add t = .ok rule') :
    rule' = { rule with
      ignore := rule.ignore || t.test == .ignore
      checks := rule.checks ++ [t].filter fun t => !t.test.isDeferred
      acts := rule.acts ++ (actOf? t).toList } := by
  unfold add at h
  split at h
  · rename_i ht
    cases h
    simp [ht, actOf?, Deferred.ofToken?, Test.isDeferred, Except.toOption]
  · cases h
  · rename_i hi hu
    have hn : (t.test == .ignore) = false := by simpa using hi
    split at h
    · rename_i hd
      cases hact : Deferred.ofToken? t with
      | error fault => simp [hact, bind, Except.bind] at h
      | ok act =>
        simp only [hact, bind, Except.bind, pure, Except.pure, Except.ok.injEq] at h
        simp [← h, actOf?, hact, hd, hn, Except.toOption]
    · rename_i hd
      cases h
      simp [hd, hn, actOf?_of_not_deferred]

theorem foldlM_add_ok {tokens : List Token} {rule rule' : FieldRule}
    (h : tokens.foldlM add rule = .ok rule') :
    rule' = { rule with
      ignore := rule.ignore || tokens.any (·.test == .ignore)
      checks := rule.checks ++ tokens.filter fun t => !t.test.isDeferred
      acts := rule.acts ++ tokens.filterMap actOf? } := by
  induction tokens generalizing rule with
  | nil =>
    cases h
    simp
  | cons t ts ih =>
    rw [List.foldlM_cons] at h
    cases ht : rule.add t with
    | error fault => simp [ht, bind, Except.bind] at h
    | ok next =>
      simp only [ht, bind, Except.bind] at h
      rw [ih h, add_ok ht]
      have hacts : (t :: ts).filterMap actOf? = (actOf? t).toList ++ ts.filterMap actOf? := by
        cases ha : actOf? t <;> simp [ha]
      have hchecks : (t :: ts).filter (fun t => !t.test.isDeferred) =
          [t].filter (fun t => !t.test.isDeferred) ++ ts.filter fun t => !t.test.isDeferred := by
        rw [← List.filter_append, List.singleton_append]
      simp only [hacts, hchecks, List.any_cons, Bool.or_assoc, List.append_assoc]

theorem eq_compiled {tokens : List Token} {rule : FieldRule} (h : ofTokens tokens = .ok rule) :
    rule = compiled tokens := by
  rw [foldlM_add_ok h]
  simp [compiled]

theorem compiled_ignore {tokens : List Token} :
    (compiled tokens).ignore = true ↔ ∃ t ∈ tokens, t.test = .ignore := by
  simp [compiled]

theorem compiled_demandsPresence {tokens : List Token} :
    (compiled tokens).demandsPresence = true ↔ ∃ t ∈ tokens, t.test.demandsPresence = true := by
  simp [compiled]

/-- The checks of a rule are its tokens that do not act later. -/
theorem mem_checks_iff {tokens : List Token} {rule : FieldRule} (h : ofTokens tokens = .ok rule) {t : Token} :
    t ∈ rule.checks ↔ t ∈ tokens ∧ t.test.isDeferred = false := by
  simp [eq_compiled h, compiled]

theorem notNull_of_actOf? {t : Token} (h : actOf? t = some .notNull) : t.test = .notNull := by
  unfold actOf? Deferred.ofToken? at h
  split at h
  · cases ht : Target.ofToken t <;> simp [ht, Except.map, Except.toOption] at h
  · simp [Except.toOption] at h
  · assumption
  · simp [Except.toOption] at h

end FieldRule

/-! ## The rules of a call -/

/-- The rules of fields are all rules but the policy's, in their order. -/
theorem Validation.splitRules_fields (rules : List (String × Json)) :
    (splitRules rules).2 = (rules.filter fun e => !(e.1 == policyKey || e.1 == quotedPolicyKey)).map
      fun e => (e.1, ruleText e.2) := by
  have main : ∀ (rs : List (String × Json)) (split : Option String × List (String × String)),
      (rs.foldl splitRule split).2 =
        split.2 ++ (rs.filter fun e => !(e.1 == policyKey || e.1 == quotedPolicyKey)).map
          fun e => (e.1, ruleText e.2) := by
    intro rs
    induction rs with
    | nil => simp
    | cons r rs ih =>
      intro split
      rw [List.foldl_cons, ih, List.filter_cons]
      cases hk : (r.1 == policyKey || r.1 == quotedPolicyKey)
      · simp only [splitRule, hk, Bool.false_eq_true, if_false, Bool.not_false, if_true, List.map_cons,
          List.append_assoc, List.singleton_append]
      · simp only [splitRule, hk, if_true, Bool.not_true, Bool.false_eq_true, if_false]
  exact main rules (none, [])

namespace RuleSet

theorem addText_ok {set set' : RuleSet} {rule : String × String} (h : set.addText rule = .ok set') :
    set' = Keyed.put set rule.1 (.compiledText rule.2) := by
  unfold addText at h
  split at h
  · rename_i made hmade
    cases h
    rw [FieldRule.eq_compiled hmade]
    rfl
  · cases h

/-- Each field has the rule that its last text makes, in the place of its first. -/
theorem eq_of_ofTexts {texts : List (String × String)} {set : RuleSet} (h : ofTexts texts = .ok set) :
    set = (Keyed.ofList texts).map fun e => (e.1, .compiledText e.2) := by
  rw [← Keyed.ofList_map FieldRule.compiledText]
  have main : ∀ (ts : List (String × String)) (acc : RuleSet), ts.foldlM addText acc = .ok set →
      set = (ts.map fun e => (e.1, .compiledText e.2)).foldl (fun es e => Keyed.put es e.1 e.2) acc := by
    intro ts
    induction ts with
    | nil =>
      rintro acc ⟨⟩
      rfl
    | cons t ts ih =>
      intro acc h
      rw [List.foldlM_cons] at h
      cases ht : acc.addText t with
      | error f => simp [ht, bind, Except.bind] at h
      | ok next =>
        simp only [ht, bind, Except.bind] at h
        rw [List.map_cons, List.foldl_cons, ← addText_ok ht]
        exact ih next h
  exact main texts [] h

/-- No field has two rules. -/
theorem distinct_ofTexts {texts : List (String × String)} {set : RuleSet} (h : ofTexts texts = .ok set) :
    Keyed.Distinct set := by
  rw [eq_of_ofTexts h, ← Keyed.ofList_map FieldRule.compiledText]
  exact Keyed.distinct_ofList _

theorem get?_ofTexts {texts : List (String × String)} {set : RuleSet} (h : ofTexts texts = .ok set)
    (field : String) : Keyed.get? set field = (Keyed.get? (Keyed.ofList texts) field).map .compiledText := by
  rw [eq_of_ofTexts h, Keyed.get?_map]

end RuleSet

/-- The tokens of the rule that the rules of a call have for a field. -/
def fieldTokens? (rules : List (String × Json)) (field : String) : Option (List Token) :=
  (Keyed.get? (Keyed.ofList (Validation.splitRules rules).2) field).map tokenize

/-- The rule of a field has a token of a test. -/
def RuleHas (rules : List (String × Json)) (field : String) (test : Test) : Prop :=
  ∃ tokens, fieldTokens? rules field = some tokens ∧ ∃ t ∈ tokens, t.test = test

instance (rules : List (String × Json)) (field : String) (test : Test) :
    Decidable (RuleHas rules field test) :=
  decidable_of_iff ((fieldTokens? rules field).any (·.any (·.test == test)) = true) (by
    simp [RuleHas, Option.any_eq_true])

/-- The keys of the policy are no fields. -/
theorem ne_policyKey_of_fieldTokens {rules : List (String × Json)} {field : String} {tokens : List Token}
    (h : fieldTokens? rules field = some tokens) : field ≠ policyKey := by
  obtain ⟨text, ht, -⟩ := Option.map_eq_some_iff.1 h
  have hm := Keyed.mem_keys_ofList (Keyed.mem_keys_of_get? ht)
  rw [Validation.splitRules_fields] at hm
  rintro rfl
  simp [Keyed.keys] at hm

section
variable {rules : List (String × Json)} {set : RuleSet}
  (h : RuleSet.ofTexts (Validation.splitRules rules).2 = .ok set)
include h

theorem get?_rules (field : String) :
    Keyed.get? set field = (fieldTokens? rules field).map .compiled := by
  rw [RuleSet.get?_ofTexts h, fieldTokens?, Option.map_map]
  rfl

theorem fieldTokens_of_mem {field : String} {rule : FieldRule} (hm : (field, rule) ∈ set) :
    ∃ tokens, fieldTokens? rules field = some tokens ∧ rule = .compiled tokens := by
  have hg := Keyed.get?_of_mem (RuleSet.distinct_ofTexts h) hm
  rw [get?_rules h] at hg
  obtain ⟨tokens, ht, rfl⟩ := Option.map_eq_some_iff.1 hg
  exact ⟨tokens, ht, rfl⟩

theorem ignore_iff_of_mem {field : String} {rule : FieldRule} (hm : (field, rule) ∈ set) :
    rule.ignore = true ↔ RuleHas rules field .ignore := by
  obtain ⟨tokens, ht, rfl⟩ := fieldTokens_of_mem h hm
  simp [RuleHas, ht, FieldRule.compiled_ignore]

theorem notNull_of_mem_acts {field : String} {rule : FieldRule} (hm : (field, rule) ∈ set)
    (ha : .notNull ∈ rule.acts) : RuleHas rules field .notNull := by
  obtain ⟨tokens, ht, rfl⟩ := fieldTokens_of_mem h hm
  obtain ⟨t, hmem, hact⟩ := List.mem_filterMap.1 ha
  exact ⟨tokens, ht, t, hmem, FieldRule.notNull_of_actOf? hact⟩

/-- A rule with a test that demands presence demands it. -/
theorem exists_mem_of_demandsPresence {field : String} {test : Test} (ht : test.demandsPresence = true)
    (hr : RuleHas rules field test) : ∃ rule, (field, rule) ∈ set ∧ rule.demandsPresence = true := by
  obtain ⟨tokens, htokens, t, hmem, rfl⟩ := hr
  refine ⟨.compiled tokens, Keyed.mem_of_get? ?_, FieldRule.compiled_demandsPresence.2 ⟨t, hmem, ht⟩⟩
  rw [get?_rules h, htokens]
  rfl

theorem mem_ignored_iff (field : String) : field ∈ set.ignored ↔ RuleHas rules field .ignore := by
  simp only [RuleSet.ignored, List.mem_map, List.mem_filter]
  constructor
  · rintro ⟨⟨_, rule⟩, ⟨hm, hi⟩, rfl⟩
    exact (ignore_iff_of_mem h hm).1 hi
  · rintro ⟨tokens, ht, hi⟩
    refine ⟨(field, .compiled tokens), ⟨Keyed.mem_of_get? ?_, FieldRule.compiled_ignore.2 hi⟩, rfl⟩
    rw [get?_rules h, ht]
    rfl

end

end FieldRules
