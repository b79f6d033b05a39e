import FieldRules.Proofs.Delivery
import FieldRules.Proofs.Evaluations
import FieldRules.Proofs.Settling
import FieldRules.Proofs.Shape
import FieldRules.Proofs.Uploads
/-!
# What a call does not change

No check replaces an upload and no act a map or an upload, so a walk and the acts after it keep the shape of the tree
as it was filled in (`Walk.shape_fields`, `Plan.shape_performAll`). Cleaning leaves out blank texts and nothing else.
So what is delivered has the shape of what was sent, less some of its plain leaves (`Validation.shape_kept`).
-/

namespace FieldRules

/-! ## Walking -/

namespace Walk

theorem threaded_upload (scope : Scope) (ts : List Token) (u : Upload) :
    threaded scope ts (.upload u) = .upload u := by
  induction ts with
  | nil => rfl
  | cons t ts ih =>
    unfold threaded
    split
    · rename_i outcome houtcome
      rw [Check.update_upload scope t u houtcome]
      exact ih
    · rfl

theorem isPlain_threaded (scope : Scope) (ts : List Token) {v : Value} (h : v.isPlain = true) :
    (threaded scope ts v).isPlain = true := by
  induction ts generalizing v with
  | nil => exact h
  | cons t ts ih =>
    unfold threaded
    split
    · rename_i outcome _
      apply ih
      cases outcome with
      | accepted => exact h
      | replaced s => rfl
      | empty => cases v <;> first | rfl | cases h
    · exact h

/-- The checks of a leaf keep its shape. -/
theorem shape_threaded (scope : Scope) (ts : List Token) {v : Value} (h : v.isMap = false) :
    (threaded scope ts v).shape = v.shape := by
  rcases v.isPlain_or with hv | ⟨u, rfl⟩ | ⟨entries, rfl⟩
  · rw [Value.shape_eq_null_iff.2 hv, Value.shape_eq_null_iff.2 (isPlain_threaded scope ts hv)]
  · rw [threaded_upload]
  · cases h

/-- A walk that ends well keeps the shape of the tree. -/
theorem shape_fields {scope : Scope} {set : RuleSet} {tree walked : List (String × Value)} {notes : List Note}
    (h : (fields scope set tree).value = ⟨walked, .ok notes⟩) : (Value.map walked).shape = (Value.map tree).shape := by
  induction set generalizing tree notes with
  | nil =>
    cases h
    rfl
  | cons r set ih =>
    rcases fields_cons_ok h with ⟨-, h⟩ | ⟨v, w, ns, ms, hv, -, hw, h, -⟩
    · exact ih h
    · -- The field ended well, so its value is what its checks make of every leaf.
      have haccepts := field_ok_iff.1 ⟨ns, congrArg Walked.outcome hw⟩
      rw [field_eq_of_accepts haccepts] at hw
      obtain rfl : r.2.checked scope v = w := congrArg Walked.value hw
      rw [ih h, Value.shape_put hv]
      exact Value.shape_mapLeaves (fun _ => shape_threaded _ _) v

end Walk

/-! ## Acts -/

namespace Target

theorem isPlain_of_map {α : Type} {leaf : α → Value} (hleaf : ∀ a, (leaf a).isPlain = true) {o : Option α}
    {w : Value} (h : o.map leaf = some w) : w.isPlain = true := by
  obtain ⟨a, -, rfl⟩ := Option.map_eq_some_iff.1 h
  exact hleaf a

/-- A text is converted to a plain leaf. -/
theorem isPlain_ofText? {target : Target} {s : String} {w : Value} (h : target.ofText? s = some w) :
    w.isPlain = true := by
  cases target with
  | string => cases h
  | integer =>
    simp only [ofText?] at h
    split at h
    · exact isPlain_of_map (fun _ => rfl) h
    · cases h
  | float | round _ | boolean | dateTime =>
    simp only [ofText?] at h
    exact isPlain_of_map (fun _ => rfl) h

theorem isPlain_convertScalar {target : Target} {v w : Value} {text : String}
    (h : target.convertScalar v text = .ok w) : w.isPlain = true := by
  unfold convertScalar at h
  split at h
  · cases h
    rfl
  · cases h
    rfl
  · split at h
    · cases h
      exact isPlain_ofText? ‹_›
    · cases h

end Target

namespace Deferred

/-- An act makes a plain leaf of a plain leaf. -/
theorem isPlain_act {d : Deferred} {v w : Value} (hv : v.isPlain = true) (h : d.act v = .ok w) : w.isPlain = true := by
  cases d with
  | null =>
    simp only [act, Except.ok.injEq] at h
    split at h
    · exact h ▸ rfl
    · exact h ▸ hv
  | notNull =>
    simp only [act, Except.ok.injEq] at h
    split at h
    · exact h ▸ rfl
    · exact h ▸ hv
  | format target =>
    simp only [act, Target.convert] at h
    split at h
    · cases h
      exact hv
    · cases hv
    · cases hv
    · split at h
      · cases h
        exact hv
      · exact Target.isPlain_convertScalar h

theorem shape_act {d : Deferred} {v w : Value} (h : d.act v = .ok w) : w.shape = v.shape := by
  rcases v.isPlain_or with hv | ⟨u, rfl⟩ | ⟨entries, rfl⟩
  · rw [Value.shape_eq_null_iff.2 hv, Value.shape_eq_null_iff.2 (isPlain_act hv h)]
  · rw [act_upload] at h
    cases h
    rfl
  · rw [act_map] at h
    cases h
    rfl

theorem shape_actAll (ds : List Deferred) (v : Value) : (actAll ds v).1.shape = v.shape := by
  induction ds generalizing v with
  | nil => rfl
  | cons d ds ih =>
    unfold actAll
    split
    · rename_i w hw
      rw [ih, shape_act hw]
    · rfl

end Deferred

namespace Plan

mutual

/-- A plan keeps the shape of a node. -/
theorem shape_perform : ∀ (plan : Plan) (place : String) (v : Value), (perform place plan v).1.shape = v.shape
  | .leaf acts, place, v => by
    unfold perform
    exact Deferred.shape_actAll acts v
  | .nested entries, place, .map fields => by
    unfold perform
    exact shape_performAll entries place fields
  | .nested _, _, .null | .nested _, _, .bool _ | .nested _, _, .int _ | .nested _, _, .float _
  | .nested _, _, .text _ | .nested _, _, .moment _ | .nested _, _, .upload _ => rfl
termination_by structural p => p

/-- Plans keep the shape of the fields, whether or not an act fails. -/
theorem shape_performAll : ∀ (plans : List (String × Plan)) (place : String) (fields : List (String × Value)),
    (Value.map (performAll place plans fields).1).shape = (Value.map fields).shape
  | [], place, fields => rfl
  | (key, plan) :: rest, place, fields => by
    unfold performAll
    split
    · exact shape_performAll rest place fields
    · rename_i v hv
      have hput := Value.shape_put hv (shape_perform plan (extendPath place key) v)
      rcases hp : perform (extendPath place key) plan v with ⟨w, _ | f⟩
      · rw [hp] at hput
        rw [← hput]
        exact shape_performAll rest place _
      · rw [hp] at hput
        exact hput
termination_by structural ps => ps

end

end Plan

/-! ## Delivery -/

section
variable {policy : Policy} {untouched : List String} {fields : List (String × Value)}

/-- Cleaning leaves out fields and does not move one. -/
theorem Policy.keys_cleanFields (policy : Policy) (untouched : List String) (fields : List (String × Value)) :
    (Keyed.keys (policy.cleanFields untouched fields)).Sublist (Keyed.keys fields) := by
  have hclean : ∀ es : List (String × Value),
      (Keyed.keys (es.filterMap (policy.cleanField untouched))).Sublist (Keyed.keys es) := by
    intro es
    induction es with
    | nil => exact List.Sublist.refl _
    | cons e es ih =>
      rw [List.filterMap_cons]
      cases he : policy.cleanField untouched e with
      | none => exact ih.cons e.1
      | some e' =>
        rw [Keyed.keys, List.map_cons, key_of_cleanField he]
        exact ih.cons_cons e.1
  exact (hclean _).trans (List.filter_sublist.map Prod.fst)

theorem deliveredFields_standsFor :
    (Value.map (deliveredFields policy untouched fields)).StandsFor (.map fields) := by
  apply Value.StandsFor.map
  rw [deliveredFields, Value.emptyMarkedEntries_eq]
  simpa [Keyed.keys, Function.comp_def] using policy.keys_cleanFields untouched fields

variable {key : String} {path : List String} {node n : Value}

/-- What is delivered at a place stands for a node that was there. -/
theorem exists_of_delivered (h : (Value.map (deliveredFields policy untouched fields)).At (key :: path) node) :
    ∃ n, (Value.map fields).At (key :: path) n ∧ node.StandsFor n := by
  obtain ⟨-, n, hn, hnode⟩ := deliveredFields_at.1 h
  refine ⟨n, hn, ?_⟩
  split at hnode
  · exact hnode ▸ .emptyMarked n
  · exact hnode.2 ▸ (Value.StandsFor.emptyMarked _).trans (.clean policy n)

/-- A map or an upload is delivered, unless it stands under the policy's key. -/
theorem exists_delivered (policy : Policy) (untouched : List String) (hkey : key ≠ policyKey) (h : (Value.map fields).At (key :: path) n)
    (hn : n.isPlain = false) :
    ∃ node, (Value.map (deliveredFields policy untouched fields)).At (key :: path) node ∧ node.StandsFor n := by
  by_cases hu : key ∈ untouched
  · exact ⟨n.emptyMarked, deliveredFields_at.2 ⟨hkey, n, h, by rw [if_pos hu]⟩, .emptyMarked n⟩
  · have hblank : (policy.clean n).isBlank = false := by
      by_contra hb
      obtain ⟨s, rfl, -⟩ := Policy.clean_isBlank.1 (by simpa using hb)
      cases hn
    refine ⟨(policy.clean n).emptyMarked, deliveredFields_at.2 ⟨hkey, n, h, by rw [if_neg hu]; exact ⟨hblank, rfl⟩⟩, ?_⟩
    exact (Value.StandsFor.emptyMarked _).trans (.clean policy n)

end

/-! ## Calls -/

theorem RuleSet.wellKeyed_prefill {set : RuleSet} {fields : List (String × Value)} (h : (Value.map fields).WellKeyed) :
    (Value.map (set.prefill fields)).WellKeyed := by
  induction set generalizing fields with
  | nil => exact h
  | cons r set ih =>
    rw [prefill_cons]
    apply ih
    split
    · obtain ⟨hd, hfields⟩ := Value.wellKeyed_map.1 h
      refine Value.wellKeyed_map.2 ⟨Keyed.distinct_put hd _ _, ?_⟩
      rintro ⟨k, v⟩ hm
      rcases Keyed.mem_put hm with ⟨-, rfl⟩ | hm
      · exact Value.wellKeyed_of_leaf rfl
      · exact hfields _ hm
    · exact h

namespace Validation

variable {engine : Validation} {rules : List (String × Json)} {data : Value}

/-- The checks and the acts keep the shape of the tree as it was filled in. -/
theorem Stages.shape_settled {tree : Value} (c : Stages engine tree rules data) :
    (Value.map c.settled).shape = (Value.map (c.set.prefill (fieldsOf tree))).shape := by
  have hacts := Plan.shape_performAll (Walk.plan c.notes) "" c.walked
  rw [c.settled_eq] at hacts
  exact hacts.trans (Walk.shape_fields c.walk_eq)

/-- What a call delivers has the shape of the tree that was sent, with the fields filled in that its rules demand. What
is delivered at a place stands for a node of that tree: a map for a map, with some of its keys in their order; the same
upload for an upload; a plain leaf for a plain leaf. Nothing but a plain leaf is left out, and what stands under the
policy's key. If no map that was sent has a key twice, a place has one node in both trees. -/
theorem shape_kept {fields : List (String × Value)}
    (h : (engine.validateTree (.map fields) (.object rules)).value = .ok (.valid data)) :
    ∃ set, RuleSet.ofTexts (splitRules rules).2 = .ok set ∧
      let sent := Value.map (set.prefill fields)
      (∀ path node, data.At path node → ∃ n, sent.At path n ∧ node.StandsFor n) ∧
      (∀ path n, sent.At path n → n.isPlain = false → path.head? ≠ some policyKey →
        ∃ node, data.At path node ∧ node.StandsFor n) ∧
      ((Value.map fields).WellKeyed → ∀ path,
        (∀ n n', sent.At path n → sent.At path n' → n = n') ∧
        ∀ node node', data.At path node → data.At path node' → node = node') := by
  obtain ⟨c⟩ := valid_iff.1 h
  obtain ⟨policy, set, hset, settled, hshape, rfl⟩ : ∃ policy set, RuleSet.ofTexts (splitRules rules).2 = .ok set ∧
      ∃ settled, (Value.map settled).shape = (Value.map (set.prefill fields)).shape ∧
        data = .map (deliveredFields policy set.ignored settled) :=
    ⟨c.policy, c.set, c.set_eq, c.settled, c.shape_settled, c.data_eq_map⟩
  have hroot : (Value.map (deliveredFields policy set.ignored settled)).StandsFor (.map (set.prefill fields)) :=
    deliveredFields_standsFor.trans (.of_shape hshape)
  have hkept : ∀ path node, (Value.map (deliveredFields policy set.ignored settled)).At path node →
      ∃ n, (Value.map (set.prefill fields)).At path n ∧ node.StandsFor n := by
    intro path node hat
    cases path with
    | nil =>
      obtain rfl := Value.at_nil.1 hat
      exact ⟨_, .root _, hroot⟩
    | cons key path =>
      obtain ⟨n, hn, hnode⟩ := exists_of_delivered hat
      obtain ⟨m, hm, hnm⟩ := Value.exists_at_of_shape hshape hn
      exact ⟨m, hm, hnode.trans (.of_shape hnm)⟩
  refine ⟨set, hset, hkept, fun path n hat hn hhead => ?_, fun hkeyed path => ?_⟩
  · cases path with
    | nil =>
      obtain rfl := Value.at_nil.1 hat
      exact ⟨_, .root _, hroot⟩
    | cons key path =>
      have hkey : key ≠ policyKey := fun he => hhead (congrArg some he)
      obtain ⟨m, hm, hnm⟩ := Value.exists_at_of_shape hshape.symm hat
      have hstands : m.StandsFor n := .of_shape hnm.symm
      obtain ⟨node, hnode, hfor⟩ := exists_delivered policy set.ignored hkey hm (hstands.isPlain_eq.trans hn)
      exact ⟨node, hnode, hfor.trans hstands⟩
  · have hsent : (Value.map (set.prefill fields)).WellKeyed := RuleSet.wellKeyed_prefill hkeyed
    have hdata : (Value.map (deliveredFields policy set.ignored settled)).WellKeyed := by
      intro path entries hat
      obtain ⟨n, hn, hfor⟩ := hkept path _ hat
      cases hfor with
      | map hkeys => exact hkeys.nodup (hsent path _ hn)
      | plain hv _ => cases hv
    exact ⟨fun _ _ => Value.At.unique hsent, fun _ _ => Value.At.unique hdata⟩

theorem shape_kept_scan :
    let scan : Upload := { name := "a.pdf", claimedType := "", path := "", error := 1, size := 0 }
    let fields := [("note", Value.text " "), ("scan", .upload scan), ("tags", .map [])]
    let rules := [("note", Json.string "string"), ("tags", .string "maxlength:3"), ("nick", .string "notnull")]
    (alone.validateTree (.map fields) (.object rules)).value =
        .ok (.valid (.map [("scan", .upload scan), ("tags", .map []), ("nick", .text "")])) ∧
      ∃ set : RuleSet, RuleSet.ofTexts (splitRules rules).2 = .ok set ∧
        ∃ n, (Value.map (set.prefill fields)).At ["nick"] n ∧ (Value.text "").StandsFor n := by
  intro scan fields rules
  have h : (alone.validateTree (.map fields) (.object rules)).value =
      .ok (.valid (.map [("scan", .upload scan), ("tags", .map []), ("nick", .text "")])) := by
    decide +kernel
  obtain ⟨set, hset, hkept, -, -⟩ := shape_kept h
  exact ⟨h, set, hset, hkept ["nick"] _ (.entry (.tail _ (.tail _ (.head _))) (.root _))⟩

end Validation

end FieldRules
