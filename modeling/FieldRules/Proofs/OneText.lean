import FieldRules.Proofs.Evaluations
import FieldRules.Proofs.Reading
import FieldRules.Proofs.Stages
/-!
# Calls with one text

A call with one rule reads it as it stands, whatever the text of the rule is, and walks and finishes by it
(`value_validateTree_of_one`, `run_one`). So in a call with one text the rule alone says what the call comes to: its
checks and then its acts make something of the text, or find a failure (`FieldRule.result`), and the verdict is read
off that (`value_validateValue_of_rule`).
-/

namespace FieldRules

open FieldRules.Text

/-! ## The rule of a call -/

theorem forall_isBlank_of_trim {s : String} (h : (trim s).isEmpty = true) : ∀ c ∈ s.toList, isBlank c = true := by
  intro c hc
  by_contra hblank
  have hmem := mem_trimChars_of_not_isBlank (by simpa using hblank) hc
  rw [← toList_trim, String.isEmpty_iff.1 h] at hmem
  cases hmem

/-- A blank rule says nothing. -/
theorem tokenize_of_blank {text : String} (h : (trim text).isEmpty = true) : tokenize text = [] := by
  have hblank := forall_isBlank_of_trim h
  have hsep : ∀ c ∈ text.toList, PatternStash.isSeparator c = false := by
    intro c hc
    by_contra hs
    rcases PatternStash.isSeparator_cases (by simpa using hs) with rfl | rfl <;> cases hblank _ hc
  have hhead : PatternStash.cellHead? text.toList = none := by
    refine Option.eq_none_iff_forall_ne_some.2 fun cell hcell => ?_
    obtain ⟨hhead, he⟩ := PatternStash.cellHead?_eq_some_iff.1 hcell
    obtain ⟨name, hname⟩ := hhead.exists_append
    cases hblank ':' (by simp [he, hname])
  have hignore : mentionsIgnore text = false := by
    rw [← String.ofList_toList (s := text)]
    refine mentionsIgnore_of_forall fun c hc hi => ?_
    have hletter := not_isBlank_of_isAsciiLetter (isAsciiLetter_of_toLower (c := c) (hi ▸ by decide))
    rw [hblank c hc] at hletter
    cases hletter
  have hpieces : ∀ sep, isBlank sep = false → pieces sep text = [text] := fun sep hs =>
    pieces_of_not_mem fun hmem => by
      rw [hblank sep hmem] at hs
      cases hs
  have hcells : pieces (if text.toList.contains ';' then ';' else '|') text = [text] := hpieces _ (by split <;> decide)
  rw [tokenize_of_no_head (by simpa [piecesBy_of_not hsep] using hhead), hignore, hcells]
  simp [h]

/-- A rule that is given as a text is read as it stands. -/
theorem tokenize_ruleText (text : String) : tokenize (ruleText (.string text)) = tokenize text := by
  cases h : (trim text).isEmpty with
  | false => simp [ruleText, cells, h, Text.join]
  | true =>
    rw [tokenize_of_blank h]
    simpa [ruleText, cells, h, Text.join] using tokenize_empty

/-- A rule is passed over just if it reads as the one test that says so. -/
theorem FieldRule.ignore_iff_tokenize {text : String} {rule : FieldRule} (h : ofTokens (tokenize text) = .ok rule) :
    rule.ignore = true ↔ tokenize text = [{ test := .ignore }] := by
  rw [eq_compiled h, compiled_ignore]
  constructor
  · rintro ⟨t, ht, hi⟩
    exact tokenize_of_ignore_mem ht hi
  · intro hread
    exact ⟨_, hread ▸ List.mem_singleton_self _, rfl⟩

/-! ## What a rule makes of a text -/

/-- What the checks of a rule and then its acts make of a text, or the failure that ends them. -/
def FieldRule.result (rule : FieldRule) (scope : Scope) (s : String) : Except Failure Value :=
  match (Walk.checkLeaf scope ["value"] rule.checks (.text s)).value with
  | (_, some f) => .error f
  | (w, none) =>
    match Deferred.actAll rule.acts w with
    | (_, some fault) => .error { fault, field := some "value" }
    | (x, none) => .ok x

theorem FieldRule.result_of_failure {rule : FieldRule} {scope : Scope} {s : String} {f : Failure}
    (h : (Walk.checkLeaf scope ["value"] rule.checks (.text s)).value.2 = some f) : rule.result scope s = .error f := by
  unfold result
  split <;> simp_all

/-- A field that was submitted is not filled in. -/
theorem RuleSet.prefill_one (name : String) (rule : FieldRule) (v : Value) :
    prefill [(name, rule)] [(name, v)] = [(name, v)] := by
  simp [prefill, Keyed.has]

namespace Validation

variable {engine : Validation} {v text : String} {rule : FieldRule}

/-! ## Calls with one rule -/

/-- The rules of a call without its policy. -/
def withoutPolicy (rules : List (String × Json)) : List (String × Json) :=
  rules.filter fun rule => !(rule.1 == policyKey || rule.1 == quotedPolicyKey)

section
variable {rules : List (String × Json)} {name : String} (hrules : withoutPolicy rules = [(name, .string text)])
include hrules

theorem splitRules_of_one : (splitRules rules).2 = [(name, ruleText (.string text))] := by
  rw [splitRules_fields]
  exact congrArg (List.map fun rule => (rule.1, ruleText rule.2)) hrules

theorem ofTexts_of_one (h : FieldRule.ofTokens (tokenize text) = .ok rule) :
    RuleSet.ofTexts (splitRules rules).2 = .ok [(name, rule)] := by
  rw [splitRules_of_one hrules]
  simp [RuleSet.ofTexts, RuleSet.addText, tokenize_ruleText, h, Keyed.put]

theorem ruleHas_of_one {test : Test} : RuleHas rules name test ↔ ∃ t ∈ tokenize text, t.test = test := by
  have htokens : fieldTokens? rules name = some (tokenize text) := by
    rw [fieldTokens?, splitRules_of_one hrules, ← tokenize_ruleText]
    simp [Keyed.ofList, Keyed.put, Keyed.get?]
  simp [RuleHas, htokens]

theorem ne_policyKey_of_one : name ≠ policyKey := by
  have hmem : (name, Json.string text) ∈ withoutPolicy rules := hrules ▸ List.mem_singleton_self _
  have hkey := (List.mem_filter.1 hmem).2
  simp only [Bool.not_eq_true', Bool.or_eq_false_iff, beq_eq_false_iff_ne] at hkey
  exact hkey.1

/-- A call with one rule walks and finishes as the rule says. -/
theorem value_validateTree_of_one {policy : Policy} (hp : engine.policy (splitRules rules).1 = .ok policy)
    (h : FieldRule.ofTokens (tokenize text) = .ok rule) (fields : List (String × Value)) :
    (engine.validateTree (.map fields) (.object rules)).value =
      match finish policy [(name, rule)]
        (Walk.fields engine.scope [(name, rule)] (RuleSet.prefill [(name, rule)] fields)).value with
      | .ok data => .ok (.valid data)
      | .error f => (engine.conclude f).value := by
  rw [validateTree, Traced.value_bind, run_of_rules hp (ofTexts_of_one hrules h), fieldsOf]
  generalize finish policy [(name, rule)] _ = finished
  cases finished <;> rfl

end

/-! ## Calls with one text -/

/-- A call with one text sorts the tokens of its rule, and walks the text if that goes well. -/
theorem run_one (engine : Validation) (v text : String) :
    engine.run (.map [("value", .text v)]) [("value", .string text)] =
      match FieldRule.ofTokens (tokenize text) with
      | .error fault => .silent (.error { fault, field := some "value" })
      | .ok rule => do
        let walked ← Walk.fields engine.scope [("value", rule)] [("value", .text v)]
        return finish engine.settings.policy [("value", rule)] walked := by
  have hsplit : splitRules [("value", .string text)] = (none, [("value", ruleText (.string text))]) := by
    have hkey : ("value" == policyKey || "value" == quotedPolicyKey) = false := by decide
    simp [splitRules, splitRule, hkey]
  cases hrule : FieldRule.ofTokens (tokenize text) with
  | error fault =>
    simp only [run, hsplit, policy, RuleSet.ofTexts, List.foldlM_cons, RuleSet.addText, tokenize_ruleText, hrule, bind,
      Except.bind]
    rfl
  | ok rule =>
    simp [run, hsplit, policy, RuleSet.ofTexts, RuleSet.addText, tokenize_ruleText, hrule, bind, Except.bind, pure,
      Except.pure, Keyed.put, fieldsOf, RuleSet.prefill_one]

/-- Rules whose tokens are sorted alike make the same of every text. -/
theorem validateValue_congr {text' : String}
    (h : FieldRule.ofTokens (tokenize text') = FieldRule.ofTokens (tokenize text)) (v : String) :
    engine.validateValue v text' = engine.validateValue v text := by
  simp only [validateValue, validateTree, run_one, h]

/-- A rule with a flawed token refuses every text. -/
theorem validateValue_of_flawed {fault : Fault} (h : FieldRule.ofTokens (tokenize text) = .error fault) (v : String) :
    engine.validateValue v text = engine.conclude { fault, field := some "value" } := by
  simp only [validateValue, validateTree, run_one, h]
  rfl

/-- The acts that are noted for the one field are done to it. -/
theorem performAll_one (acts : List Deferred) (w : Value) :
    Plan.performAll "" (Walk.plan [⟨["value"], acts⟩]) [("value", w)] =
      ([("value", (Deferred.actAll acts w).1)],
        (Deferred.actAll acts w).2.map fun fault => { fault, field := some "value" }) := by
  have hpath : Plan.extendPath "" "value" = "value" := by decide
  cases acts with
  | nil => simp [Walk.plan, Plan.note, Plan.performAll, Deferred.actAll]
  | cons act acts =>
    have hplan : Walk.plan [⟨["value"], act :: acts⟩] = [("value", .leaf (act :: acts))] := rfl
    have hget : Keyed.get? [("value", w)] "value" = some w := rfl
    rw [hplan, Plan.performAll, hget]
    simp only [Plan.perform, hpath]
    cases (Deferred.actAll (act :: acts) w).2 <;> rfl

/-- A call with one text ends as its checks and acts do. -/
theorem value_validateValue_of_rule (h : FieldRule.ofTokens (tokenize text) = .ok rule) (hi : rule.ignore = false) :
    (engine.validateValue v text).value =
      match rule.result engine.scope v with
      | .ok w => .ok (.valid (deliver engine.settings.policy [("value", rule)] (.map [("value", w)])))
      | .error f => (engine.conclude f).value := by
  have hwalk : (Walk.fields engine.scope [("value", rule)] [("value", .text v)]).value =
      let w := (Walk.leaf engine.scope rule.checks rule.acts ["value"] (.text v)).value
      ⟨[("value", w.value)], w.outcome⟩ := by
    rw [Walk.fields_singleton hi rfl]
    rfl
  unfold validateValue FieldRule.result
  rw [value_validateTree_of_one rfl rfl h, RuleSet.prefill_one, hwalk, Walk.leaf, Traced.value_bind]
  rcases (Walk.checkLeaf engine.scope ["value"] rule.checks (.text v)).value with ⟨w, _ | f⟩
  · simp only [Traced.value_pure, finish, bind, Except.bind, Plan.performTree, performAll_one]
    rcases Deferred.actAll rule.acts w with ⟨x, _ | fault⟩ <;> rfl
  · rfl

/-- What is delivered of one text. -/
theorem deliver_text {policy : Policy} {name : String} (hname : name ≠ policyKey) {rule : FieldRule}
    (hi : rule.ignore = false) (s : String) : deliver policy [(name, rule)] (.map [(name, .text s)]) =
      .map ((policy.deliverText? s).toList.map fun t => (name, .text t)) := by
  have hignored : RuleSet.ignored [(name, rule)] = [] := by simp [RuleSet.ignored, hi]
  have hkey : (name != policyKey) = true := by simpa using hname
  unfold deliver Policy.cleanTree Policy.cleanFields Policy.deliverText?
  cases hb : isBlankText (policy.cleanText s) <;>
    simp [hignored, Keyed.remove, hkey, Policy.cleanField, Policy.clean, Value.isBlank, hb, Value.emptyMarked,
      Value.emptyMarkedEntries]

theorem deliver_value {policy : Policy} {rule : FieldRule} (hi : rule.ignore = false) (s : String) :
    deliver policy [("value", rule)] (.map [("value", .text s)]) =
      .map ((policy.deliverText? s).toList.map fun t => ("value", .text t)) :=
  deliver_text (by decide) hi s

end Validation

end FieldRules
