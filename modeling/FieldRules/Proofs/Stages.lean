import FieldRules.Proofs.Acting
import FieldRules.Proofs.Walking
/-!
# The stages of a call that ends well

A call that ends in a valid verdict has gone through all its stages without a failure, and `Stages` holds what
it had after each (`valid_iff`). What is proven of the stages apart is put together here, field by field: a
field that is passed through is what was submitted until it is delivered (`Stages.get?_settled`), a field that
was demanded is there when all acts are done (`Stages.mem_keys_settled`), and where a rule does not say
`notNull`, a text with an underscore stood in the tree before the acts (`Stages.text_at_walked`).
-/

namespace FieldRules.Validation

variable {engine : Validation} {tree : Value} {rules : List (String × Json)} {data : Value}

/-- What a call that ends well has after each of its stages. -/
structure Stages (engine : Validation) (tree : Value) (rules : List (String × Json)) (data : Value) where
  policy : Policy
  set : RuleSet
  /-- The fields when they have been checked. -/
  walked : List (String × Value)
  notes : List Note
  /-- The fields when the deferred acts are done. -/
  settled : List (String × Value)
  policy_eq : engine.policy (splitRules rules).1 = .ok policy
  set_eq : RuleSet.ofTexts (splitRules rules).2 = .ok set
  walk_eq : (Walk.fields engine.scope set (set.prefill (fieldsOf tree))).value = ⟨walked, .ok notes⟩
  settled_eq : Plan.performAll "" (Walk.plan notes) walked = (settled, none)
  data_eq : data = deliver policy set (.map settled)

theorem finish_ok {policy : Policy} {set : RuleSet} {walked : Walked (List (String × Value))} :
    finish policy set walked = .ok data ↔ ∃ notes settled, walked.outcome = .ok notes ∧
      Plan.performAll "" (Walk.plan notes) walked.value = (settled, none) ∧
        data = deliver policy set (.map settled) := by
  unfold finish
  cases ho : walked.outcome with
  | error f => simp [bind, Except.bind]
  | ok notes =>
    rcases hp : Plan.performAll "" (Walk.plan notes) walked.value with ⟨settled, failure⟩
    cases failure <;>
      simp [bind, Except.bind, Plan.performTree, hp, pure, Except.pure, throw, throwThe, MonadExceptOf.throw,
        eq_comm]

/-- A call whose rules make sense walks and finishes. -/
theorem run_of_rules {policy : Policy} {set : RuleSet} (hp : engine.policy (splitRules rules).1 = .ok policy)
    (hs : RuleSet.ofTexts (splitRules rules).2 = .ok set) : (engine.run tree rules).value =
      finish policy set (Walk.fields engine.scope set (set.prefill (fieldsOf tree))).value := by
  simp only [run, hp, hs, bind, Except.bind, pure, Except.pure]
  rfl

theorem rules_of_run (h : (engine.run tree rules).value = .ok data) :
    ∃ policy set, engine.policy (splitRules rules).1 = .ok policy ∧
      RuleSet.ofTexts (splitRules rules).2 = .ok set := by
  cases hp : engine.policy (splitRules rules).1 with
  | error f =>
    simp only [run, hp, bind, Except.bind] at h
    cases h
  | ok policy =>
    cases hs : RuleSet.ofTexts (splitRules rules).2 with
    | error f =>
      simp only [run, hp, hs, bind, Except.bind] at h
      cases h
    | ok set => exact ⟨policy, set, rfl, rfl⟩

theorem run_ok : (engine.run tree rules).value = .ok data ↔ Nonempty (Stages engine tree rules data) := by
  constructor
  · intro h
    obtain ⟨policy, set, hp, hs⟩ := rules_of_run h
    rw [run_of_rules hp hs] at h
    obtain ⟨notes, settled, hn, hsettled, hdata⟩ := finish_ok.1 h
    exact ⟨⟨policy, set, _, notes, settled, hp, hs, by rw [← hn], hsettled, hdata⟩⟩
  · rintro ⟨c⟩
    rw [run_of_rules c.policy_eq c.set_eq, c.walk_eq]
    exact finish_ok.2 ⟨c.notes, c.settled, rfl, c.settled_eq, c.data_eq⟩

theorem conclude_ne_valid (f : Failure) : (engine.conclude f).value ≠ .ok (.valid data) := by
  cases hd : engine.detailed <;> cases hr : engine.raising <;> simp [conclude, hd, hr]

/-- A call ends in a valid verdict just if it goes through all stages. -/
theorem valid_iff : (engine.validateTree tree (.object rules)).value = .ok (.valid data) ↔
    Nonempty (Stages engine tree rules data) := by
  rw [← run_ok]
  unfold validateTree
  simp only [Traced.value_bind]
  cases hr : (engine.run tree rules).value with
  | error f => simp [conclude_ne_valid]
  | ok out => simp

namespace Stages

variable (c : Stages engine tree rules data)
include c

theorem data_eq_map : data = .map (deliveredFields c.policy c.set.ignored c.settled) :=
  c.data_eq.trans (deliver_map _ _ _)

theorem mem_ignored (field : String) : field ∈ c.set.ignored ↔ RuleHas rules field .ignore :=
  mem_ignored_iff c.set_eq field

/-- What is noted in a field is noted by a rule of that field. -/
theorem rule_of_note {note : Note} (hn : note ∈ c.notes) {field : String} (hf : [field] <+: note.path) :
    ∃ rule, (field, rule) ∈ c.set ∧ rule.ignore = false ∧ note.acts = rule.acts := by
  obtain ⟨name, rule, hm, hi, hpath, hacts⟩ := Walk.note_of_fields c.walk_eq note hn
  obtain ⟨tail, ht⟩ := hf
  rw [← ht] at hpath
  obtain ⟨rfl, -⟩ := List.cons_prefix_cons.1 hpath
  exact ⟨rule, hm, hi, hacts⟩

/-- A field that is passed through is what was submitted until it is delivered. -/
theorem get?_settled {field : String} (hf : RuleHas rules field .ignore) :
    Keyed.get? c.settled field = Keyed.get? (fieldsOf tree) field := by
  -- No rule of the field checks it, so nothing is noted in it and no plan names it.
  have hrule : ∀ rule, (field, rule) ∈ c.set → rule.ignore = true := fun rule hm =>
    (ignore_iff_of_mem c.set_eq hm).2 hf
  have hplan : ∀ plan, (field, plan) ∉ Walk.plan c.notes := by
    intro plan hm
    obtain ⟨⟨note, hn, hpath⟩, -⟩ := Walk.noted_plan c.notes field plan hm
    obtain ⟨rule, hm, hi, -⟩ := c.rule_of_note hn hpath
    rw [hrule rule hm] at hi
    cases hi
  have hsettled := Plan.get?_performAll hplan "" c.walked
  rw [c.settled_eq] at hsettled
  rw [hsettled, Walk.get?_of_fields hrule c.walk_eq, RuleSet.get?_prefill hrule]

/-- A field whose rule demands it is there when all acts are done. -/
theorem mem_keys_settled {field : String} {test : Test} (ht : test.demandsPresence = true)
    (hf : RuleHas rules field test) (hi : ¬ RuleHas rules field .ignore) :
    field ∈ Keyed.keys c.settled := by
  obtain ⟨rule, hm, hd⟩ := exists_mem_of_demandsPresence c.set_eq ht hf
  have hri : rule.ignore = false := by
    rw [← ignore_iff_of_mem c.set_eq hm] at hi
    simpa using hi
  have hkeys := Plan.keys_performAll "" (Walk.plan c.notes) c.walked
  rw [c.settled_eq] at hkeys
  rw [hkeys, Walk.keys_of_fields c.walk_eq]
  exact RuleSet.mem_keys_prefill hm hd hri _

/-- In a field whose rule does not say `notNull`, a text with an underscore that is there when all acts are done
was there before them. -/
theorem text_at_walked {key : String} (hk : ¬ RuleHas rules key .notNull) {path : List String} {s : String}
    (hs : '_' ∈ s.toList) (h : (Value.map c.settled).At (key :: path) (.text s)) :
    (Value.map c.walked).At (key :: path) (.text s) := by
  have hacts : ∀ plan, (key, plan) ∈ Walk.plan c.notes → .notNull ∉ plan.acts := by
    intro plan hm hn
    obtain ⟨note, hnote, hpath, hd⟩ := (Walk.noted_plan c.notes key plan hm).2 _ hn
    obtain ⟨rule, hm, -, ha⟩ := c.rule_of_note hnote hpath
    exact hk (notNull_of_mem_acts c.set_eq hm (ha ▸ hd))
  refine Plan.text_at_of_performAll hs (Walk.plan c.notes) key hacts "" c.walked path ?_
  rw [c.settled_eq]
  exact h

end Stages

end FieldRules.Validation
