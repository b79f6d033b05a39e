import FieldRules.Proofs.Sweep
import FieldRules.Proofs.Tree
import FieldRules.Proofs.Walking
import Mathlib.Data.List.Basic
/-!
# A field, leaf by leaf

What a walk does to one field is told by the leaves of its value. `Value.mem_places_iff` says that the places of a
tree are just its leaves and, where they are asked for, its empty maps; `Walk.ending_visit` that a visit is a row of
steps over the places of the tree, and `Walk.value_visit` that it replaces just the leaves.
-/

namespace FieldRules

/-! ## The leaves of a tree -/

namespace Value

/-- A map is the only node that is no leaf. -/
def isMap : Value → Bool
  | .map _ => true
  | _ => false

mutual

/-- The tree with other leaves in the places of its own; maps keep their keys and their order. -/
def mapLeaves (f : Value → Value) : Value → Value
  | .map entries => .map (mapEntryLeaves f entries)
  | v => f v
termination_by structural v => v

def mapEntryLeaves (f : Value → Value) : List (String × Value) → List (String × Value)
  | [] => []
  | (key, v) :: rest => (key, mapLeaves f v) :: mapEntryLeaves f rest
termination_by structural es => es

end

mutual

/-- The places of a tree where checks are put, in order, with the leaf that stands there. With `probing`, an
empty map is such a place, and an unset leaf stands in for it. -/
def places (probing : Bool) (path : List String) : Value → List (List String × Value)
  | .map entries =>
    if probing && entries.isEmpty then [(path, Value.empty)] else entryPlaces probing path entries
  | v => [(path, v)]
termination_by structural v => v

def entryPlaces (probing : Bool) (path : List String) : List (String × Value) → List (List String × Value)
  | [] => []
  | (key, v) :: rest => places probing (path ++ [key]) v ++ entryPlaces probing path rest
termination_by structural es => es

end

mutual

/-- Induction on a tree: what holds of all leaves, and of a map if it holds of all that is in it, holds of every
tree. -/
theorem leafInduction {motive : Value → Prop} (leaf : ∀ v, v.isMap = false → motive v)
    (map : ∀ entries, (∀ e ∈ entries, motive e.2) → motive (.map entries)) : ∀ v, motive v
  | .map entries => map entries (leafInductionEntries leaf map entries)
  | .null | .bool _ | .int _ | .float _ | .text _ | .moment _ | .upload _ => leaf _ rfl
termination_by structural v => v

theorem leafInductionEntries {motive : Value → Prop} (leaf : ∀ v, v.isMap = false → motive v)
    (map : ∀ entries, (∀ e ∈ entries, motive e.2) → motive (.map entries)) :
    ∀ entries : List (String × Value), ∀ e ∈ entries, motive e.2
  | [] => List.forall_mem_nil _
  | (_, v) :: rest => List.forall_mem_cons.2 ⟨leafInduction leaf map v, leafInductionEntries leaf map rest⟩
termination_by structural es => es

end

attribute [elab_as_elim] leafInduction

section
variable {v : Value} (h : v.isMap = false)
include h

theorem mapLeaves_of_leaf (f : Value → Value) : v.mapLeaves f = f v := by
  cases v <;> first | rfl | cases h

theorem places_of_leaf (probing : Bool) (path : List String) : v.places probing path = [(path, v)] := by
  cases v <;> first | rfl | cases h

end

theorem mapEntryLeaves_eq (f : Value → Value) (entries : List (String × Value)) :
    mapEntryLeaves f entries = entries.map fun e => (e.1, e.2.mapLeaves f) := by
  induction entries with
  | nil => rfl
  | cons e es ih => rw [mapEntryLeaves, ih, List.map_cons]

theorem entryPlaces_eq (probing : Bool) (path : List String) (entries : List (String × Value)) :
    entryPlaces probing path entries = entries.flatMap fun e => e.2.places probing (path ++ [e.1]) := by
  induction entries with
  | nil => rfl
  | cons e es ih => rw [entryPlaces, ih, List.flatMap_cons]

/-- The places of a tree under a path are its places under the rest of the path, put below the front. -/
theorem places_append (probing : Bool) (front : List String) (v : Value) : ∀ path,
    v.places probing (front ++ path) = (v.places probing path).map fun place => (front ++ place.1, place.2) := by
  induction v using leafInduction with
  | leaf v hv => simp [places_of_leaf hv]
  | map entries ih =>
    intro path
    unfold places
    split
    · rfl
    · rw [entryPlaces_eq, entryPlaces_eq, List.map_flatMap]
      refine List.flatMap_congr fun e he => ?_
      rw [List.append_assoc, ih e he]

theorem mem_entryPlaces {probing : Bool} {path : List String} {entries : List (String × Value)}
    {place : List String × Value} : place ∈ entryPlaces probing path entries ↔
      ∃ key v, (key, v) ∈ entries ∧ place ∈ v.places probing (path ++ [key]) := by
  rw [entryPlaces_eq, List.mem_flatMap, Prod.exists]

/-- A leaf of a tree is what stands in a place, or stands in for the empty map there. -/
def IsPlace (probing : Bool) (v : Value) (path : List String) (w : Value) : Prop :=
  v.At path w ∧ w.isMap = false ∨ probing = true ∧ v.At path (.map []) ∧ w = Value.empty

theorem isPlace_cons {probing : Bool} {entries : List (String × Value)} {key : String} {path : List String}
    {w : Value} : IsPlace probing (.map entries) (key :: path) w ↔
      ∃ v, (key, v) ∈ entries ∧ IsPlace probing v path w := by
  simp only [IsPlace, at_cons]
  constructor
  · rintro (⟨⟨v, hm, hat⟩, hw⟩ | ⟨hp, ⟨v, hm, hat⟩, hw⟩)
    · exact ⟨v, hm, .inl ⟨hat, hw⟩⟩
    · exact ⟨v, hm, .inr ⟨hp, hat, hw⟩⟩
  · rintro ⟨v, hm, ⟨hat, hw⟩ | ⟨hp, hat, hw⟩⟩
    · exact .inl ⟨⟨v, hm, hat⟩, hw⟩
    · exact .inr ⟨hp, ⟨v, hm, hat⟩, hw⟩

theorem isPlace_of_leaf {probing : Bool} {v : Value} (h : v.isMap = false) {path : List String} {w : Value} :
    IsPlace probing v path w ↔ path = [] ∧ w = v := by
  constructor
  · rintro (⟨hat, -⟩ | ⟨-, hat, -⟩) <;> cases hat <;> first | exact ⟨rfl, rfl⟩ | cases h
  · rintro ⟨rfl, rfl⟩
    exact .inl ⟨.root _, h⟩

theorem isPlace_nil_of_entries {probing : Bool} {entries : List (String × Value)} {w : Value} :
    IsPlace probing (.map entries) [] w ↔ probing = true ∧ entries = [] ∧ w = Value.empty := by
  simp only [IsPlace, at_nil, Value.map.injEq, eq_comm (a := ([] : List (String × Value)))]
  constructor
  · rintro (⟨rfl, hw⟩ | h)
    · cases hw
    · exact h
  · exact .inr

/-- The places of a tree are its leaves and, with `probing`, its empty maps. -/
theorem mem_places_iff {probing : Bool} (v : Value) : ∀ {above path : List String} {w : Value},
    (path, w) ∈ v.places probing above ↔ ∃ below, path = above ++ below ∧ IsPlace probing v below w := by
  induction v using leafInduction with
  | leaf v hv =>
    intro above path w
    simp [places_of_leaf hv, isPlace_of_leaf hv]
  | map entries ih =>
    intro above path w
    unfold places
    split
    · rename_i h
      obtain ⟨rfl, he⟩ := Bool.and_eq_true_iff.1 h
      obtain rfl := List.isEmpty_iff.1 he
      constructor
      · intro h
        obtain ⟨rfl, rfl⟩ := Prod.mk.inj (List.mem_singleton.1 h)
        exact ⟨[], by simp, isPlace_nil_of_entries.2 ⟨rfl, rfl, rfl⟩⟩
      · rintro ⟨_ | ⟨key, below⟩, rfl, h⟩
        · simp [(isPlace_nil_of_entries.1 h).2.2]
        · obtain ⟨_, hm, -⟩ := isPlace_cons.1 h
          cases hm
    · rename_i h
      rw [mem_entryPlaces]
      constructor
      · rintro ⟨key, v, hm, hv⟩
        obtain ⟨below, rfl, hbelow⟩ := (ih _ hm).1 hv
        exact ⟨key :: below, by simp, isPlace_cons.2 ⟨v, hm, hbelow⟩⟩
      · rintro ⟨_ | ⟨key, below⟩, rfl, hbelow⟩
        · obtain ⟨hp, rfl, -⟩ := isPlace_nil_of_entries.1 hbelow
          exact absurd (by simp [hp]) h
        · obtain ⟨v, hm, hv⟩ := isPlace_cons.1 hbelow
          exact ⟨key, v, hm, (ih _ hm).2 ⟨below, by simp, hv⟩⟩

/-- No map in the tree has a key twice. -/
def WellKeyed (v : Value) : Prop := ∀ path entries, v.At path (.map entries) → Keyed.Distinct entries

theorem wellKeyed_map {entries : List (String × Value)} :
    (Value.map entries).WellKeyed ↔ Keyed.Distinct entries ∧ ∀ e ∈ entries, e.2.WellKeyed := by
  constructor
  · exact fun h => ⟨h [] entries (.root _), fun e he path es hes => h (e.1 :: path) es (.entry he hes)⟩
  · rintro ⟨hd, hentries⟩ (_ | ⟨key, path⟩) es hes
    · cases hes
      exact hd
    · obtain ⟨v, hv, hes⟩ := at_cons.1 hes
      exact hentries _ hv path es hes

theorem wellKeyed_of_leaf {v : Value} (h : v.isMap = false) : v.WellKeyed := by
  rintro (_ | ⟨key, path⟩) entries hat
  · cases hat
    cases h
  · obtain ⟨_, rfl⟩ := hat.exists_map
    cases h

section
variable {f : Value → Value} (hf : ∀ w : Value, w.isMap = false → (f w).isMap = false)
include hf

/-- Other leaves leave the maps of a tree and their keys. -/
theorem WellKeyed.mapLeaves {v : Value} (h : v.WellKeyed) : (v.mapLeaves f).WellKeyed := by
  induction v using leafInduction with
  | leaf v hv =>
    rw [mapLeaves_of_leaf hv]
    exact wellKeyed_of_leaf (hf v hv)
  | map entries ih =>
    obtain ⟨hd, hentries⟩ := wellKeyed_map.1 h
    rw [Value.mapLeaves, mapEntryLeaves_eq, wellKeyed_map, Keyed.Distinct, Keyed.keys, List.map_map]
    refine ⟨hd, fun e he => ?_⟩
    obtain ⟨e, hm, rfl⟩ := List.mem_map.1 he
    exact ih e hm (hentries e hm)

end

end Value

namespace Walk

/-! ## A visit -/

/-- Notes of the same acts in some places. -/
def notesAt (acts : List Deferred) (places : List (List String × Value)) : List Note :=
  places.map fun place => ⟨place.1, acts⟩

section
variable {probing : Bool} {leaf : List String → Value → Traced (Walked Value)}

theorem visit_of_leaf {v : Value} (h : v.isMap = false) (path : List String) :
    visit probing leaf path v = leaf path v := by
  cases v <;> first | rfl | cases h

theorem ending_visitEntries {entries : List (String × Value)}
    (h : ∀ e ∈ entries, ∀ path, ending (visit probing leaf path e.2) =
      sweep (fun p => ending (leaf p.1 p.2)) (e.2.places probing path)) (path : List String) :
    ending (visitEntries probing leaf path entries) =
      sweep (fun p => ending (leaf p.1 p.2)) (Value.entryPlaces probing path entries) := by
  induction entries with
  | nil => rfl
  | cons e es ih =>
    obtain ⟨key, v⟩ := e
    have hv := h _ List.mem_cons_self (path ++ [key])
    have ih := ih fun e he => h e (List.mem_cons_of_mem _ he)
    rw [Value.entryPlaces]
    unfold visitEntries
    cases hw : (visit probing leaf (path ++ [key]) v).value.outcome with
    | error f =>
      have hs := congrArg Traced.value hv
      rw [sweep_append_of_error (hs.symm.trans hw), ← hv]
      simp [ending, hw]
    | ok notes =>
      have hs := congrArg Traced.value hv
      rw [sweep_append_of_ok (hs.symm.trans hw), ← hv, ← ih]
      simp [ending, hw, Walked.after]

/-- A visit is a row of steps over the places of the tree. -/
theorem ending_visit (v : Value) : ∀ path, ending (visit probing leaf path v) =
    sweep (fun p => ending (leaf p.1 p.2)) (v.places probing path) := by
  induction v using Value.leafInduction with
  | leaf v hv =>
    intro path
    rw [visit_of_leaf hv, Value.places_of_leaf hv, sweep_singleton]
  | map entries ih =>
    intro path
    unfold visit Value.places
    cases hempty : entries.isEmpty with
    | false =>
      simp only [Bool.and_false, Bool.false_eq_true, if_false, ← ending_visitEntries ih path]
      simp [ending]
    | true =>
      obtain rfl := List.isEmpty_iff.1 hempty
      cases probing with
      | false => simp [ending, Value.entryPlaces, sweep, Traced.silent]
      | true => simp [ending, sweep_singleton]

theorem value_visitEntries {f : Value → Value} {entries : List (String × Value)}
    (h : ∀ e ∈ entries, ∀ path notes, (visit probing leaf path e.2).value.outcome = .ok notes →
      (visit probing leaf path e.2).value.value = e.2.mapLeaves f) {path : List String} {notes : List Note}
    (hok : (visitEntries probing leaf path entries).value.outcome = .ok notes) :
    (visitEntries probing leaf path entries).value.value = Value.mapEntryLeaves f entries := by
  induction entries generalizing notes with
  | nil => rfl
  | cons e es ih =>
    obtain ⟨key, v⟩ := e
    obtain ⟨ns, ms, hns, hms, -⟩ := visitEntries_cons_ok hok
    have hv := h _ List.mem_cons_self _ _ hns
    have hes := ih (fun e he => h e (List.mem_cons_of_mem _ he)) hms
    unfold visitEntries
    simp only [Traced.value_bind, Traced.value_pure, hns, Walked.after, hv, hes, Value.mapEntryLeaves]

/-- A visit that ends well has replaced every leaf and nothing else. -/
theorem value_visit {f : Value → Value} (hf : ∀ path v, (leaf path v).value.value = f v) (v : Value) :
    ∀ path notes, (visit probing leaf path v).value.outcome = .ok notes →
      (visit probing leaf path v).value.value = v.mapLeaves f := by
  induction v using Value.leafInduction with
  | leaf v hv =>
    intro path notes _
    rw [visit_of_leaf hv, Value.mapLeaves_of_leaf hv, hf]
  | map entries ih =>
    intro path notes hok
    unfold visit at hok ⊢
    split at hok
    · rename_i hempty
      obtain rfl := List.isEmpty_iff.1 hempty
      cases probing <;> rfl
    · rename_i hempty
      rw [if_neg hempty]
      exact congrArg Value.map (value_visitEntries ih hok)

end

end Walk

end FieldRules
