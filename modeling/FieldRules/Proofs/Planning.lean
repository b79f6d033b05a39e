import FieldRules.Proofs.Acting
import FieldRules.Proofs.Leaves
import Mathlib.Data.List.Basic
/-!
# The plan of the notes on a tree

What is noted in one field never touches the plan of another, so the plan of all notes is the plans of the fields
one after another (`Walk.plan_flatMap`). And the notes that say the same acts in all places of a node make the plan
that has the shape of the node (`Walk.plan_places`).
-/

namespace FieldRules

/-! ## Notes in different fields -/

theorem first_unique {k k' : String} {path : List String} (h : [k] <+: path) (h' : [k'] <+: path) : k = k' := by
  obtain ⟨tail, rfl⟩ := h
  exact (List.cons_prefix_cons.1 h').1.symm

namespace Plan

/-- What is noted below a key that has no plan yet leaves the plans before it alone. -/
theorem insert_append {plans : List (String × Plan)} {key : String} (h : key ∉ Keyed.keys plans)
    (acts : List Deferred) (path : List String) (more : List (String × Plan)) :
    insert acts (key :: path) (plans ++ more) = plans ++ insert acts (key :: path) more := by
  cases path with
  | nil => exact Keyed.put_append_of_not_mem h _ _
  | cons next path =>
    simp only [insert, Keyed.put_append_of_not_mem h, Keyed.get?_append, Keyed.get?_of_not_mem h, Option.none_or]

theorem note_append {plans : List (String × Plan)} {path : List String}
    (h : ∀ key ∈ Keyed.keys plans, ¬ [key] <+: path) (acts : List Deferred) (more : List (String × Plan)) :
    note (plans ++ more) path acts = plans ++ note more path acts := by
  unfold note
  split
  · rfl
  · cases path with
    | nil => rfl
    | cons key path =>
      have hkey : key ∉ Keyed.keys plans := fun hm => h key hm (by simp)
      exact insert_append hkey acts path more

end Plan

namespace Walk

theorem foldl_note_append {plans : List (String × Plan)} {notes : List Note}
    (h : ∀ note ∈ notes, ∀ key ∈ Keyed.keys plans, ¬ [key] <+: note.path) (more : List (String × Plan)) :
    notes.foldl (fun entries note => Plan.note entries note.path note.acts) (plans ++ more) =
      plans ++ notes.foldl (fun entries note => Plan.note entries note.path note.acts) more := by
  induction notes generalizing more with
  | nil => rfl
  | cons n ns ih =>
    obtain ⟨hn, hns⟩ := List.forall_mem_cons.1 h
    rw [List.foldl_cons, Plan.note_append hn, ih hns, List.foldl_cons]

/-- Notes in fields in which nothing was noted before have a plan of their own. -/
theorem plan_append {ns ms : List Note}
    (h : ∀ n ∈ ns, ∀ m ∈ ms, ∀ key, [key] <+: n.path → ¬ [key] <+: m.path) :
    plan (ns ++ ms) = plan ns ++ plan ms := by
  have hkeys : ∀ m ∈ ms, ∀ key ∈ Keyed.keys (plan ns), ¬ [key] <+: m.path := by
    intro m hm key hkey
    obtain ⟨p, hp⟩ := Keyed.mem_keys.1 hkey
    obtain ⟨⟨n, hn, hpath⟩, -⟩ := noted_plan ns key p hp
    exact h n hn m hm key hpath
  have := foldl_note_append hkeys []
  rw [List.append_nil] at this
  rw [plan, List.foldl_append]
  exact this

/-- The plan of the notes in different fields is the plans of the fields, one after another. -/
theorem plan_flatMap {α : Type} {as : List α} {key : α → String} {notes : α → List Note}
    (hd : (as.map key).Nodup) (hnotes : ∀ a ∈ as, ∀ n ∈ notes a, [key a] <+: n.path) :
    plan (as.flatMap notes) = as.flatMap fun a => plan (notes a) := by
  induction as with
  | nil => rfl
  | cons a as ih =>
    obtain ⟨ha, hd⟩ := List.nodup_cons.1 hd
    obtain ⟨hna, hnas⟩ := List.forall_mem_cons.1 hnotes
    rw [List.flatMap_cons, List.flatMap_cons, ← ih hd hnas]
    refine plan_append fun n hn m hm k hkn hkm => ?_
    -- Both notes begin with the key `k`, which is then that of `a` and that of a later element.
    obtain ⟨b, hb, hmb⟩ := List.mem_flatMap.1 hm
    have hka : key a = k := first_unique (hna n hn) hkn
    have hkb : key b = k := first_unique (hnas b hb m hmb) hkm
    exact ha (hka.trans hkb.symm ▸ List.mem_map_of_mem hb)

end Walk

/-! ## Notes in one field -/

namespace Plan

/-- The plan of a map with plans inside, if there are any. -/
def nest (plans : List (String × Plan)) : Option Plan := if plans.isEmpty then none else some (.nested plans)

mutual

/-- The plan with the same acts in all places of a node, if it has places. -/
def ofValue (probing : Bool) (acts : List Deferred) : Value → Option Plan
  | .map entries =>
    if probing && entries.isEmpty then some (.leaf acts) else nest (ofEntries probing acts entries)
  | _ => some (.leaf acts)
termination_by structural v => v

def ofEntries (probing : Bool) (acts : List Deferred) : List (String × Value) → List (String × Plan)
  | [] => []
  | (key, v) :: rest => ((ofValue probing acts v).toList.map fun plan => (key, plan)) ++ ofEntries probing acts rest
termination_by structural es => es

end

theorem ofEntries_eq (probing : Bool) (acts : List Deferred) (entries : List (String × Value)) :
    ofEntries probing acts entries =
      entries.flatMap fun e => (ofValue probing acts e.2).toList.map fun plan => (e.1, plan) := by
  induction entries with
  | nil => rfl
  | cons e es ih => rw [ofEntries, ih, List.flatMap_cons]

theorem ofValue_of_leaf {v : Value} (h : v.isMap = false) (probing : Bool) (acts : List Deferred) :
    ofValue probing acts v = some (.leaf acts) := by
  cases v <;> first | rfl | cases h

/-- The plan of a node is that of its maps and keys, whatever its leaves. -/
theorem ofValue_mapLeaves {f : Value → Value} (hf : ∀ w : Value, w.isMap = false → (f w).isMap = false)
    {probing : Bool} {acts : List Deferred} (v : Value) :
    ofValue probing acts (v.mapLeaves f) = ofValue probing acts v := by
  induction v using Value.leafInduction with
  | leaf v hv => rw [Value.mapLeaves_of_leaf hv, ofValue_of_leaf hv, ofValue_of_leaf (hf v hv)]
  | map entries ih =>
    have hentries : ofEntries probing acts (Value.mapEntryLeaves f entries) = ofEntries probing acts entries := by
      rw [Value.mapEntryLeaves_eq, ofEntries_eq, ofEntries_eq, List.flatMap_map]
      exact List.flatMap_congr fun e he => by rw [ih e he]
    rw [Value.mapLeaves, ofValue, ofValue, hentries, Value.mapEntryLeaves_eq, List.isEmpty_map]

/-- The plans of what is below a key, as the plans of the field that holds it. -/
def under (key : String) (plans : List (String × Plan)) : List (String × Plan) :=
  (nest plans).toList.map fun plan => (key, plan)

theorem insert_under {acts : List Deferred} {path : List String} (hpath : path ≠ []) (key : String)
    (plans : List (String × Plan)) :
    insert acts (key :: path) (under key plans) = under key (insert acts path plans) := by
  obtain ⟨next, path, rfl⟩ := List.exists_cons_of_ne_nil hpath
  have hinner : inner (Keyed.get? (under key plans) key) = plans := by
    cases plans <;> simp [under, nest, Keyed.get?, inner]
  have hput : ∀ plan, Keyed.put (under key plans) key plan = [(key, plan)] := by
    cases plans <;> simp [under, nest, Keyed.put]
  have hne : (insert acts (next :: path) plans).isEmpty = false := by
    cases path <;> exact Keyed.isEmpty_put _ _ _
  rw [insert, hinner, hput, under, nest, hne]
  · rfl
  · simp

end Plan

namespace Walk

theorem path_of_mem_notesAt {acts : List Deferred} {probing : Bool} {v : Value} {above : List String} {note : Note}
    (h : note ∈ notesAt acts (v.places probing above)) : above <+: note.path := by
  obtain ⟨⟨path, w⟩, hplace, rfl⟩ := List.mem_map.1 h
  obtain ⟨below, rfl, -⟩ := (Value.mem_places_iff v).1 hplace
  exact List.prefix_append above below

theorem plan_entryPlaces {acts : List Deferred} {probing : Bool} {entries : List (String × Value)}
    (hd : Keyed.Distinct entries)
    (h : ∀ e ∈ entries, ∀ key, plan (notesAt acts (e.2.places probing [key])) =
      (Plan.ofValue probing acts e.2).toList.map fun plan => (key, plan)) :
    plan (notesAt acts (Value.entryPlaces probing [] entries)) = Plan.ofEntries probing acts entries := by
  rw [Value.entryPlaces_eq, notesAt, List.map_flatMap, Plan.ofEntries_eq]
  refine (plan_flatMap hd fun e _ n hn => path_of_mem_notesAt hn).trans (List.flatMap_congr fun e he => ?_)
  exact h e he e.1

section
variable {acts : List Deferred} (hacts : acts ≠ [])
include hacts

/-- What is noted in places below a key makes the plan below the key. -/
theorem plan_notesAt_under {places : List (List String × Value)} (hplaces : ∀ place ∈ places, place.1 ≠ [])
    (key : String) : plan (notesAt acts (places.map fun place => (key :: place.1, place.2))) =
      Plan.under key (plan (notesAt acts places)) := by
  have hnote : ∀ plans path, Plan.note plans path acts = Plan.insert acts path plans := by
    simp [Plan.note, hacts]
  -- The invariant of the two folds: the plans of the one are those of the other, below the key.
  have main : ∀ ps : List (List String × Value), (∀ place ∈ ps, place.1 ≠ []) → ∀ plans,
      ps.foldl (fun plans place => Plan.insert acts (key :: place.1) plans) (Plan.under key plans) =
        Plan.under key (ps.foldl (fun plans place => Plan.insert acts place.1 plans) plans) := by
    intro ps
    induction ps with
    | nil => exact fun _ _ => rfl
    | cons p ps ih =>
      intro hps plans
      obtain ⟨hp, hps⟩ := List.forall_mem_cons.1 hps
      rw [List.foldl_cons, Plan.insert_under hp, ih hps, List.foldl_cons]
  simp only [plan, notesAt, List.foldl_map, hnote]
  exact main places hplaces []

/-- The notes of the same acts in all places of a field make the plan that has the shape of the field. -/
theorem plan_places {probing : Bool} {v : Value} (hv : v.WellKeyed) (key : String) :
    plan (notesAt acts (v.places probing [key])) =
      (Plan.ofValue probing acts v).toList.map fun plan => (key, plan) := by
  have hsingle : ∀ k w, plan (notesAt acts [([k], w)]) = [(k, .leaf acts)] := by
    intro k w
    simp [plan, notesAt, Plan.note, hacts, Plan.insert, Keyed.put]
  induction v using Value.leafInduction generalizing key with
  | leaf v hleaf =>
    rw [Value.places_of_leaf hleaf, Plan.ofValue_of_leaf hleaf, hsingle, Option.toList, List.map_singleton]
  | map entries ih =>
    obtain ⟨hd, hentries⟩ := Value.wellKeyed_map.1 hv
    unfold Value.places Plan.ofValue
    split
    · rw [hsingle, Option.toList, List.map_singleton]
    · have hplaces : Value.entryPlaces probing [key] entries =
          (Value.entryPlaces probing [] entries).map fun place => (key :: place.1, place.2) := by
        rw [Value.entryPlaces_eq, Value.entryPlaces_eq, List.map_flatMap]
        exact List.flatMap_congr fun e _ => Value.places_append probing [key] e.2 [e.1]
      have hne : ∀ place ∈ Value.entryPlaces probing [] entries, place.1 ≠ [] := by
        rintro ⟨path, u⟩ hplace (hnil : path = [])
        obtain ⟨k, w, -, hplace⟩ := Value.mem_entryPlaces.1 hplace
        obtain ⟨below, hpath, -⟩ := (Value.mem_places_iff w).1 hplace
        simp [hnil] at hpath
      rw [hplaces, plan_notesAt_under hacts hne,
        plan_entryPlaces hd fun e he k => ih e he (hentries e he) k, Plan.under]

end

end Walk

end FieldRules
