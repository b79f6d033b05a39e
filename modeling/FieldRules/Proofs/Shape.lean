import FieldRules.Proofs.Leaves
/-!
# The shape of a tree

The shape of a tree is its maps with their keys, and its uploads; what stands in the other leaves is no part of it.
Trees of the same shape have nodes of the same shape in the same places (`Value.exists_at_of_shape`).
`Value.StandsFor` is weaker: it says what may become of a node when leaves are changed and some are left out.
-/

namespace FieldRules

namespace Value

/-- A leaf that is no upload. -/
def isPlain : Value → Bool
  | .upload _ | .map _ => false
  | _ => true

/-- The tree with null in the place of every plain leaf. -/
def shape (v : Value) : Value := v.mapLeaves fun w => if w.isPlain then .null else w

theorem shape_map (entries : List (String × Value)) :
    (Value.map entries).shape = .map (entries.map fun e => (e.1, e.2.shape)) := by
  rw [shape, mapLeaves, mapEntryLeaves_eq]
  rfl

theorem shape_eq_null_iff {v : Value} : v.shape = .null ↔ v.isPlain = true := by
  cases v <;> simp [shape, mapLeaves, isPlain]

theorem shape_eq_upload_iff {v : Value} {u : Upload} : v.shape = .upload u ↔ v = .upload u := by
  cases v <;> simp [shape, mapLeaves, isPlain]

theorem exists_map_of_shape {v : Value} {entries : List (String × Value)} (h : v.shape = .map entries) :
    ∃ es, v = .map es := by
  cases v <;> first | exact ⟨_, rfl⟩ | cases h

theorem isPlain_or (v : Value) : v.isPlain = true ∨ (∃ u, v = .upload u) ∨ ∃ entries, v = .map entries := by
  cases v <;> simp [isPlain]

/-- Other leaves of the same shape leave the shape of the tree. -/
theorem shape_mapLeaves {f : Value → Value} (hf : ∀ w : Value, w.isMap = false → (f w).shape = w.shape) (v : Value) :
    (v.mapLeaves f).shape = v.shape := by
  induction v using leafInduction with
  | leaf v hv => rw [mapLeaves_of_leaf hv, hf v hv]
  | map entries ih =>
    rw [mapLeaves, mapEntryLeaves_eq, shape_map, shape_map, List.map_map]
    congr 1
    apply List.map_congr_left
    intro e he
    exact Prod.ext rfl (ih e he)

/-- A node of the same shape in the place of another leaves the shape of the tree. -/
theorem shape_put {entries : List (String × Value)} {key : String} {v w : Value}
    (hv : Keyed.get? entries key = some v) (h : w.shape = v.shape) :
    (Value.map (Keyed.put entries key w)).shape = (Value.map entries).shape := by
  have hget : Keyed.get? (entries.map fun e => (e.1, e.2.shape)) key = some w.shape := by
    rw [Keyed.get?_map, hv, h]
    rfl
  rw [shape_map, shape_map, ← Keyed.put_map shape, Keyed.put_of_get? hget]

theorem keys_of_shape {entries entries' : List (String × Value)}
    (h : (Value.map entries).shape = (Value.map entries').shape) : Keyed.keys entries = Keyed.keys entries' := by
  rw [shape_map, shape_map, Value.map.injEq] at h
  simpa [Keyed.keys, Function.comp_def] using congrArg (List.map Prod.fst) h

/-- Trees of the same shape have nodes of the same shape in the same places. -/
theorem exists_at_of_shape {path : List String} : ∀ {v w n : Value}, v.shape = w.shape → v.At path n →
    ∃ m, w.At path m ∧ n.shape = m.shape := by
  induction path with
  | nil =>
    intro v w n h hat
    obtain rfl := at_nil.1 hat
    exact ⟨w, .root w, h⟩
  | cons key path ih =>
    intro v w n h hat
    obtain ⟨entries, rfl⟩ := hat.exists_map
    obtain ⟨x, hx, hbelow⟩ := at_cons.1 hat
    obtain ⟨entries', rfl⟩ := exists_map_of_shape (h.symm.trans (shape_map entries))
    rw [shape_map, shape_map, Value.map.injEq] at h
    have hmem : (key, x.shape) ∈ entries'.map fun e => (e.1, e.2.shape) := h ▸ List.mem_map.2 ⟨_, hx, rfl⟩
    obtain ⟨⟨key', y⟩, hy, he⟩ := List.mem_map.1 hmem
    obtain ⟨rfl, hshape⟩ := Prod.mk.inj he
    obtain ⟨m, hm, hnm⟩ := ih hshape.symm hbelow
    exact ⟨m, .entry hy hm, hnm⟩

/-- The node is what became of the other: a map of a map, with some of its keys in their order; the same upload; or a
plain leaf of a plain leaf. -/
inductive StandsFor : Value → Value → Prop
  | map {entries entries' : List (String × Value)} (h : (Keyed.keys entries).Sublist (Keyed.keys entries')) :
      StandsFor (.map entries) (.map entries')
  | upload (u : Upload) : StandsFor (.upload u) (.upload u)
  | plain {v w : Value} (hv : v.isPlain = true) (hw : w.isPlain = true) : StandsFor v w

namespace StandsFor

theorem trans {v w x : Value} (h : v.StandsFor w) (h' : w.StandsFor x) : v.StandsFor x := by
  cases h with
  | map h =>
    cases h' with
    | map h' => exact .map (h.trans h')
    | plain hv hw => cases hv
  | upload u => exact h'
  | plain hv hw =>
    cases h' with
    | plain _ hx => exact .plain hv hx
    | map _ => cases hw
    | upload _ => cases hw

theorem of_shape {v w : Value} (h : v.shape = w.shape) : v.StandsFor w := by
  rcases isPlain_or v with hv | ⟨u, rfl⟩ | ⟨entries, rfl⟩
  · exact .plain hv (shape_eq_null_iff.1 (h.symm.trans (shape_eq_null_iff.2 hv)))
  · obtain rfl := shape_eq_upload_iff.1 h.symm
    exact .upload u
  · obtain ⟨entries', rfl⟩ := exists_map_of_shape (h.symm.trans (shape_map entries))
    exact .map (keys_of_shape h ▸ List.Sublist.refl _)

theorem emptyMarked (v : Value) : v.emptyMarked.StandsFor v := by
  cases v with
  | map entries =>
    apply map
    rw [Value.emptyMarkedEntries_eq]
    simp [Keyed.keys, Function.comp_def]
  | upload u => exact .upload u
  | _ => exact .plain rfl rfl

theorem clean (policy : Policy) (v : Value) : (policy.clean v).StandsFor v := by
  cases v with
  | map entries =>
    apply map
    induction entries with
    | nil => exact List.Sublist.refl _
    | cons e es ih =>
      rw [Policy.cleanEntries]
      split
      · exact ih.cons e.1
      · exact ih.cons_cons e.1
  | upload u => exact .upload u
  | _ => exact .plain rfl rfl

theorem isPlain_eq {v w : Value} (h : v.StandsFor w) : v.isPlain = w.isPlain := by
  cases h with
  | map _ => rfl
  | upload _ => rfl
  | plain hv hw => rw [hv, hw]

end StandsFor

/-- Where no map has a key twice, one node stands in a place. -/
theorem At.unique {path : List String} : ∀ {v n n' : Value}, v.WellKeyed → v.At path n → v.At path n' → n = n' := by
  induction path with
  | nil =>
    intro v n n' _ h h'
    rw [at_nil.1 h, at_nil.1 h']
  | cons key path ih =>
    intro v n n' hv h h'
    obtain ⟨entries, rfl⟩ := h.exists_map
    obtain ⟨hd, hentries⟩ := wellKeyed_map.1 hv
    obtain ⟨w, hw, hn⟩ := at_cons.1 h
    obtain ⟨w', hw', hn'⟩ := at_cons.1 h'
    obtain rfl : w = w' := Option.some.inj ((Keyed.get?_of_mem hd hw).symm.trans (Keyed.get?_of_mem hd hw'))
    exact ih (hentries _ hw) hn hn'

end Value

end FieldRules
