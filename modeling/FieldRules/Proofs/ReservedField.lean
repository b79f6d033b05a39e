import FieldRules.Proofs.Independence
/-!
# A field under the policy's key

The key of the policy is reserved among the rules, and no rule of a field has it. A submitted field may have it all the
same. No stage of a call looks at that field: trees that agree off a key stay so as long as no rule has the key
(`RuleSet.agreesOff_prefill`, `Walk.agreesOff_fields`, `Plan.agreesOff_performAll`), and cleaning takes the field out.
So what is submitted under the policy's key, and where it stands, makes no difference to a call
(`Validation.policyField_unread`).
-/

namespace FieldRules

/-! ## Agreement off a key -/

namespace Keyed

variable {α : Type} {k : String} {es fs : List (String × α)}

/-- The entries of all other keys are the same, in the same order. -/
def AgreesOff (k : String) (es fs : List (String × α)) : Prop := remove es k = remove fs k

theorem agreesOff_insert (k : String) (before after : List (String × α)) (v : α) :
    AgreesOff k (before ++ (k, v) :: after) (before ++ after) := by
  simp [AgreesOff, remove]

theorem remove_put {k' : String} (hk : k' ≠ k) (es : List (String × α)) (v : α) :
    remove (put es k' v) k = put (remove es k) k' v := by
  induction es with
  | nil => simp [remove, put, hk]
  | cons e es ih =>
    unfold remove at ih ⊢
    by_cases he : e.1 = k'
    · simp [put, he, hk]
    · by_cases hek : e.1 = k
      · have hne : k ≠ k' := hk.symm
        simp [put, hek, hne, ih]
      · simp [put, he, hek, ih]

namespace AgreesOff

variable (h : AgreesOff k es fs) {k' : String} (hk : k' ≠ k)
include h hk

theorem get?_eq : get? es k' = get? fs k' := by
  rw [← get?_remove hk es, h, get?_remove hk]

theorem has_eq : has es k' = has fs k' := by
  have hsome : ∀ gs : List (String × α), has gs k' = (get? gs k').isSome := by
    intro gs
    rw [Bool.eq_iff_iff]
    simp [has, get?]
  rw [hsome, hsome, h.get?_eq hk]

theorem put (v : α) : AgreesOff k (put es k' v) (put fs k' v) := by
  rw [AgreesOff, remove_put hk, remove_put hk, h]

end AgreesOff

end Keyed

open Keyed

variable {k : String} {es fs : List (String × Value)}

/-! ## The stages of a call -/

/-- No rule but one of the key itself can fill in a field under the key. -/
theorem RuleSet.agreesOff_prefill {set : RuleSet} (hset : k ∉ keys set) (h : AgreesOff k es fs) :
    AgreesOff k (set.prefill es) (set.prefill fs) := by
  induction set generalizing es fs with
  | nil => exact h
  | cons r set ih =>
    have hk : r.1 ≠ k := (List.ne_of_not_mem_cons hset).symm
    rw [prefill_cons, prefill_cons, h.has_eq hk]
    apply ih (List.not_mem_of_not_mem_cons hset)
    split
    · exact h.put hk _
    · exact h

namespace Walk

/-- A walk by rules without the key does the same in trees that agree off the key. -/
theorem agreesOff_fields {set : RuleSet} (hset : k ∉ keys set) (scope : Scope) (h : AgreesOff k es fs) :
    ending (fields scope set es) = ending (fields scope set fs) ∧
      AgreesOff k (fields scope set es).value.value (fields scope set fs).value.value := by
  induction set generalizing es fs with
  | nil => exact ⟨rfl, h⟩
  | cons r set ih =>
    obtain ⟨name, rule⟩ := r
    have hk : name ≠ k := (List.ne_of_not_mem_cons hset).symm
    have hset := List.not_mem_of_not_mem_cons hset
    have hget : get? es name = get? fs name := h.get?_eq hk
    by_cases hs : Skips es (name, rule)
    · have hs' : Skips fs (name, rule) := by rwa [Skips, ← hget]
      rw [fields_cons_of_skips hs, fields_cons_of_skips hs']
      exact ih hset h
    · obtain ⟨v, hv, hi⟩ := exists_of_not_skips hs
      have hput := h.put hk (field scope rule [name] v).value.value
      rw [fields_cons_of_visits hi hv, fields_cons_of_visits hi (hget ▸ hv)]
      cases hw : (field scope rule [name] v).value.outcome with
      | error f => simp [ending, hw, hput]
      | ok notes =>
        obtain ⟨hending, hvalue⟩ := ih hset hput
        obtain ⟨hcalls, houtcome⟩ := Traced.mk.inj hending
        simp [ending, hw, Walked.after, hcalls, houtcome, hvalue]

/-- A walk makes a plan only for fields that have a rule. -/
theorem mem_keys_of_plan {scope : Scope} {set : RuleSet} {tree walked : List (String × Value)} {notes : List Note}
    (h : (fields scope set tree).value = ⟨walked, .ok notes⟩) (hk : k ∈ keys (plan notes)) : k ∈ keys set := by
  obtain ⟨p, hp⟩ := mem_keys.1 hk
  obtain ⟨⟨note, hn, hpath⟩, -⟩ := noted_plan notes k p hp
  obtain ⟨name, rule, hm, -, hname, -⟩ := note_of_fields h note hn
  rw [first_unique hpath hname]
  exact mem_keys.2 ⟨rule, hm⟩

end Walk

/-- Plans that do not name the key do the same in trees that agree off the key. -/
theorem Plan.agreesOff_performAll {plans : List (String × Plan)} (hplans : k ∉ keys plans) (path : String)
    (h : AgreesOff k es fs) : (performAll path plans es).2 = (performAll path plans fs).2 ∧
      AgreesOff k (performAll path plans es).1 (performAll path plans fs).1 := by
  induction plans generalizing es fs with
  | nil => exact ⟨rfl, h⟩
  | cons p plans ih =>
    obtain ⟨key, plan⟩ := p
    have hk : key ≠ k := (List.ne_of_not_mem_cons hplans).symm
    have hplans := List.not_mem_of_not_mem_cons hplans
    have hget : get? es key = get? fs key := h.get?_eq hk
    unfold performAll
    rw [hget]
    cases get? fs key with
    | none => exact ih hplans h
    | some v =>
      rcases hp : perform (extendPath path key) plan v with ⟨w, failure⟩
      have hput := h.put hk w
      simp only [hp]
      cases failure with
      | some f => exact ⟨rfl, hput⟩
      | none => exact ih hplans hput

/-- Cleaning makes the same of trees that agree off the policy's key. -/
theorem Policy.cleanFields_of_agreesOff (policy : Policy) (untouched : List String) (h : AgreesOff policyKey es fs) :
    policy.cleanFields untouched es = policy.cleanFields untouched fs := by
  rw [cleanFields, cleanFields, h]

/-! ## Calls -/

namespace Validation

theorem policyKey_not_mem_keys {rules : List (String × Json)} {set : RuleSet}
    (h : RuleSet.ofTexts (splitRules rules).2 = .ok set) : policyKey ∉ keys set := by
  intro hm
  obtain ⟨rule, hm⟩ := mem_keys.1 hm
  obtain ⟨tokens, htokens, -⟩ := fieldTokens_of_mem h hm
  exact ne_policyKey_of_fieldTokens htokens rfl

/-- The acts and the cleaning come to the same after walks that did the same in trees that agree off the policy's
key. -/
theorem finish_of_agreesOff (policy : Policy) {set : RuleSet} (hset : policyKey ∉ keys set) (scope : Scope)
    (h : AgreesOff policyKey es fs) : finish policy set (Walk.fields scope set es).value =
      finish policy set (Walk.fields scope set fs).value := by
  obtain ⟨hending, hvalue⟩ := Walk.agreesOff_fields hset scope h
  obtain ⟨-, houtcome⟩ := Traced.mk.inj hending
  unfold finish
  rw [houtcome]
  cases hn : (Walk.fields scope set fs).value.outcome with
  | error f => rfl
  | ok notes =>
    have hplan : policyKey ∉ keys (Walk.plan notes) := by
      have hwalk : (Walk.fields scope set fs).value = ⟨(Walk.fields scope set fs).value.value, .ok notes⟩ := by
        rw [← hn]
      exact fun hm => hset (Walk.mem_keys_of_plan hwalk hm)
    obtain ⟨hfailure, hsettled⟩ := Plan.agreesOff_performAll hplan "" hvalue
    simp only [bind, Except.bind, Plan.performTree]
    rw [hfailure]
    cases (Plan.performAll "" (Walk.plan notes) (Walk.fields scope set fs).value.value).2 with
    | some f => rfl
    | none =>
      simp only [deliver, Policy.cleanTree, Policy.cleanFields_of_agreesOff policy _ hsettled]

theorem run_of_agreesOff (engine : Validation) (rules : List (String × Json)) (h : AgreesOff policyKey es fs) :
    engine.run (.map es) rules = engine.run (.map fs) rules := by
  unfold run
  cases hp : engine.policy (splitRules rules).1 with
  | error f => simp only [hp, bind, Except.bind]
  | ok policy =>
    cases hs : RuleSet.ofTexts (splitRules rules).2 with
    | error f => simp only [hp, hs, bind, Except.bind]
    | ok set =>
      have hset := policyKey_not_mem_keys hs
      have hprefill := RuleSet.agreesOff_prefill hset h
      obtain ⟨hending, -⟩ := Walk.agreesOff_fields hset engine.scope hprefill
      obtain ⟨hcalls, -⟩ := Traced.mk.inj hending
      have hfinish := finish_of_agreesOff policy hset engine.scope hprefill
      simp only [hp, hs, bind, Except.bind, pure, Except.pure, fieldsOf, hcalls, hfinish]

/-- What is submitted under the policy's key, and where among the fields, makes no difference: the call has the same
result and makes the same calls as without it. -/
theorem policyField_unread (engine : Validation) (before after : List (String × Value)) (x : Value) (rules : Json) :
    engine.validateTree (.map (before ++ (policyKey, x) :: after)) rules =
      engine.validateTree (.map (before ++ after)) rules := by
  cases rules with
  | object rules => rw [validateTree, validateTree, run_of_agreesOff engine rules (agreesOff_insert _ _ _ _)]
  | _ => rfl

end Validation

end FieldRules
