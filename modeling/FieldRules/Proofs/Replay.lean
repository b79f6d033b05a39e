import FieldRules.Proofs.Independence
import FieldRules.Proofs.Settling
/-!
# Acts are done once to every leaf

The acts that a walk notes are performed by way of a plan, in another pass over the tree. `Walk.plan_settles` says that
this comes to doing the acts of each rule to each leaf of its field, in the order of the rules and of the tree.
-/

namespace FieldRules

namespace Walk

theorem plan_notesAt_nil (places : List (List String × Value)) : plan (notesAt [] places) = [] := by
  simp [plan, notesAt, Plan.note, List.foldl_map]

/-- The plan of notes of acts in all places of a node does the acts to the node, also when its leaves have changed. -/
theorem settles_notesAt {acts : List Deferred} {probing : Bool} {v : Value} (hv : v.WellKeyed) {f : Value → Value}
    (hf : ∀ w : Value, w.isMap = false → (f w).isMap = false) (name : String) :
    ∃ plan?, plan (notesAt acts (v.places probing [name])) = (Option.toList plan?).map (fun plan => (name, plan)) ∧
      Plan.Settles acts plan? (v.mapLeaves f) := by
  by_cases hacts : acts = []
  · refine ⟨none, ?_, fun place => ?_⟩
    · rw [hacts, plan_notesAt_nil]
      rfl
    · rw [hacts, Deferred.settle_nil]
      rfl
  · refine ⟨_, plan_places hacts hv name, ?_⟩
    rw [← Plan.ofValue_mapLeaves hf]
    exact Plan.perform_ofValue probing acts (hv.mapLeaves hf)

/-- No check makes a map of a leaf. -/
theorem isMap_threaded (scope : Scope) (ts : List Token) : ∀ {v : Value}, v.isMap = false →
    (threaded scope ts v).isMap = false := by
  induction ts with
  | nil => exact fun h => h
  | cons t ts ih =>
    intro v h
    rw [threaded]
    split
    · rename_i outcome _
      refine ih ?_
      cases outcome with
      | accepted => exact h
      | replaced s => rfl
      | empty => cases v <;> rfl
    · exact h

section
variable {scope : Scope} {set : RuleSet} {tree walked : List (String × Value)} {notes : List Note}

/-- The plan of the lone walk of a field does the acts of its rule to what the walk leaves of it. -/
theorem serves_lonePlan (hset : Keyed.Distinct set) (htree : (Value.map tree).WellKeyed)
    (h : (fields scope set tree).value = ⟨walked, .ok notes⟩) :
    ∀ r ∈ set, Plan.Serves walked r (lonePlan scope tree r) := by
  intro r hr
  obtain ⟨name, rule⟩ := r
  have hwalked := get?_fields hset h _ hr
  by_cases hs : Skips tree (name, rule)
  · rw [lone_of_skips hs] at hwalked
    have hwalked : Keyed.get? walked name = Keyed.get? tree name := hwalked.trans (Keyed.get?_only tree name)
    have hplan : lonePlan scope tree (name, rule) = [] := by
      rw [lonePlan, lone_of_skips hs]
      rfl
    refine ⟨fun _ => hplan, fun v hv hi => ?_⟩
    rcases hs with hnone | hignore
    · cases hnone.symm.trans (hwalked.symm.trans hv)
    · cases hi.symm.trans hignore
  · obtain ⟨v, hv, hi⟩ := exists_of_not_skips hs
    obtain ⟨ns, hok⟩ := (fields_ok_iff hset).1 ⟨notes, congrArg Walked.outcome h⟩ _ hr
    have hlone := lone_of_visits hi hv scope
    rw [hlone] at hok
    -- The field ended well, so its notes and its value are those of its checks.
    rw [field_eq_of_accepts (field_ok_iff.1 ⟨ns, hok⟩)] at hlone
    have hwalked : Keyed.get? walked name = some (rule.checked scope v) := by
      rw [hwalked, hlone]
      simp [Keyed.get?]
    have hplan : lonePlan scope tree (name, rule) = plan (notesAt rule.acts (rule.placesOf [name] v)) := by
      rw [lonePlan, hlone]
      rfl
    refine ⟨fun hskips => ?_, fun w hw _ => ?_⟩
    · rcases hskips with hnone | hignore
      · cases hnone.symm.trans hwalked
      · cases hi.symm.trans hignore
    · obtain rfl := Option.some.inj (hwalked.symm.trans hw)
      rw [hplan]
      exact settles_notesAt ((Value.wellKeyed_map.1 htree).2 _ (Keyed.mem_of_get? hv))
        (fun _ => isMap_threaded _ _) name

/-- Performing the plan of a walk does the acts of every rule to every leaf of its field. -/
theorem perform_plan (hset : Keyed.Distinct set) (htree : (Value.map tree).WellKeyed)
    (h : (fields scope set tree).value = ⟨walked, .ok notes⟩) :
    Plan.performAll "" (plan notes) walked = set.settle walked := by
  rw [plan_fields hset (congrArg Walked.outcome h)]
  exact Plan.performAll_of_serves hset (serves_lonePlan hset htree h)

/-- Performing the plan of a walk comes to doing, in every field that has a rule and is not passed through, the acts
of the rule to each leaf once, in their order. It fails just if the acts fail on a leaf, with the failure of the first
such leaf in the order of the rules and then of the tree. If it does not fail, every such leaf is what the acts make of
it, and the rest of the tree stays. Acts leave maps and uploads as they are. -/
theorem plan_settles (hset : Keyed.Distinct set) (htree : (Value.map tree).WellKeyed)
    (h : (fields scope set tree).value = ⟨walked, .ok notes⟩) :
    let performed := Plan.performTree (plan notes) (.map walked)
    performed = (.map (set.settle walked).1, (set.settle walked).2) ∧
      performed.2 = (set.findSome? fun r =>
        (RuleSet.dueLeaves walked r).findSome? (Deferred.failureAt? r.2.acts)) ∧
      (performed.2 = none → performed.1 = .map (walked.map fun e => (e.1, set.settledValue e.1 e.2))) ∧
      ∀ acts, (∀ entries, Deferred.actAll acts (.map entries) = (.map entries, none)) ∧
        ∀ u, Deferred.actAll acts (.upload u) = (.upload u, none) := by
  intro performed
  have hperformed : performed = (.map (set.settle walked).1, (set.settle walked).2) := by
    rw [← perform_plan hset htree h]
    rfl
  have hwalked : Keyed.Distinct walked := by
    rw [Keyed.Distinct, keys_of_fields h]
    exact (Value.wellKeyed_map.1 htree).1
  refine ⟨hperformed, ?_, fun hnone => ?_, fun acts => ⟨fun entries => ?_, fun u => ?_⟩⟩
  · rw [hperformed, RuleSet.settle_snd hset]
  · rw [hperformed] at hnone ⊢
    rw [RuleSet.settle_fst hset hwalked hnone]
  · exact Deferred.actAll_of_unchanged (fun d => d.act_map entries) acts
  · exact Deferred.actAll_of_unchanged (fun d => d.act_upload u) acts

theorem plan_settles_sizes :
    let scope : Scope := { collaborators := .mute }
    let set : RuleSet := [("sizes", .compiledText "null;format:integer")]
    let tree := [("sizes", Value.map [("a", .text "7"), ("b", .map [("c", .text " ")])]), ("note", .text " ")]
    Keyed.Distinct set ∧ (Value.map tree).WellKeyed ∧
      ∃ walked notes, (fields scope set tree).value = ⟨walked, .ok notes⟩ ∧
        (Plan.performTree (plan notes) (.map walked)).1 =
          .map [("sizes", .map [("a", .int 7), ("b", .map [("c", .null)])]), ("note", .text " ")] := by
  intro scope set tree
  let acts : List Deferred := [.null, .format .integer]
  let made : RuleSet := [("sizes", { acts, demandsPresence := true })]
  have hmade : set = made := by decide +kernel
  rw [hmade]
  have hset : (Keyed.keys made).Nodup := by decide
  have htext : ∀ s, (Value.text s).WellKeyed := fun s => Value.wellKeyed_of_leaf rfl
  have htree : (Value.map tree).WellKeyed := by
    simp [tree, Value.wellKeyed_map, htext, Keyed.Distinct, Keyed.keys]
  have hvalue : (fields scope made tree).value.value = tree := by decide
  have hnotes : (fields scope made tree).value.outcome =
      .ok [⟨["sizes", "a"], acts⟩, ⟨["sizes", "b", "c"], acts⟩] := by
    decide
  have hwalk := congrArg₂ Walked.mk hvalue hnotes
  obtain ⟨-, hfault, hvalue, -⟩ := plan_settles hset htree hwalk
  refine ⟨hset, htree, tree, _, hwalk, (hvalue (hfault.trans ?_)).trans ?_⟩ <;> decide

end

end Walk

end FieldRules
