import FieldRules.Keyed
/-!
# What is found under a key

Looking up a key after a write, and looking it up in a list where keys stand once.
-/

namespace FieldRules.Keyed

variable {α : Type}

/-! ## Looking up -/

theorem get?_cons (e : String × α) (es : List (String × α)) (k : String) :
    get? (e :: es) k = if e.1 = k then some e.2 else get? es k := by
  by_cases h : e.1 = k <;> simp [get?, h]

theorem mem_of_get? {es : List (String × α)} {k : String} {v : α} (h : get? es k = some v) :
    (k, v) ∈ es := by
  obtain ⟨e, he, rfl⟩ := Option.map_eq_some_iff.1 h
  have hk : e.1 = k := by simpa using List.find?_some he
  rw [← hk]
  exact List.mem_of_find?_eq_some he

theorem mem_keys {es : List (String × α)} {k : String} : k ∈ keys es ↔ ∃ v, (k, v) ∈ es := by
  simp [keys]

theorem mem_keys_of_get? {es : List (String × α)} {k : String} {v : α} (h : get? es k = some v) :
    k ∈ keys es :=
  mem_keys.2 ⟨v, mem_of_get? h⟩

/-- Where no key stands twice, an entry is what its key finds. -/
theorem get?_of_mem {es : List (String × α)} (hd : Distinct es) {k : String} {v : α}
    (h : (k, v) ∈ es) : get? es k = some v := by
  induction es with
  | nil => cases h
  | cons e es ih =>
    obtain ⟨hn, hd⟩ := List.nodup_cons.1 hd
    rw [get?_cons]
    rcases List.mem_cons.1 h with rfl | h
    · simp
    · have hk : e.1 ≠ k := fun he => hn (he ▸ mem_keys.2 ⟨v, h⟩)
      rw [if_neg hk]
      exact ih hd h

theorem has_iff {es : List (String × α)} {k : String} : has es k = true ↔ k ∈ keys es := by
  simp [has, keys]

theorem get?_mapWithKey {β : Type} (f : String → α → β) (es : List (String × α)) (k : String) :
    get? (es.map fun e => (e.1, f e.1 e.2)) k = (get? es k).map (f k) := by
  induction es with
  | nil => rfl
  | cons e es ih =>
    rw [List.map_cons, get?_cons, get?_cons, ih]
    split
    · rename_i he
      rw [Option.map_some, ← he]
    · rfl

theorem get?_map {β : Type} (f : α → β) (es : List (String × α)) (k : String) :
    get? (es.map fun e => (e.1, f e.2)) k = (get? es k).map f :=
  get?_mapWithKey (fun _ => f) es k

theorem get?_remove {k k' : String} (h : k' ≠ k) (es : List (String × α)) :
    get? (remove es k) k' = get? es k' := by
  induction es with
  | nil => rfl
  | cons e es ih =>
    by_cases he : e.1 = k
    · rw [get?_cons, if_neg (he ▸ h.symm), ← ih]
      simp [remove, he]
    · rw [get?_cons, ← ih, ← get?_cons]
      simp [remove, he]

theorem get?_of_not_mem {es : List (String × α)} {k : String} (h : k ∉ keys es) : get? es k = none := by
  cases hg : get? es k with
  | none => rfl
  | some v => exact absurd (mem_keys_of_get? hg) h

theorem get?_append (es fs : List (String × α)) (k : String) :
    get? (es ++ fs) k = (get? es k).or (get? fs k) := by
  simp [get?, List.find?_append, Option.map_or]

theorem not_mem_of_distinct_append {es fs : List (String × α)} {e : String × α} (h : Distinct (es ++ e :: fs)) :
    e.1 ∉ keys es := by
  intro hm
  rw [Distinct, keys, List.map_append, List.nodup_append] at h
  exact h.2.2 e.1 hm e.1 List.mem_cons_self rfl

theorem get?_toList_map {β : Type} (o : Option β) (f : β → α) (k : String) :
    get? (o.toList.map fun b => (k, f b)) k = o.map f := by
  cases o <;> simp [get?]

/-- Entries that are made for different keys, one after another, find for a key what was made for it. -/
theorem get?_flatMap {β : Type} {as : List β} {key : β → String} {make : β → List (String × α)}
    (hd : (as.map key).Nodup) (hmake : ∀ a ∈ as, ∀ k ∈ keys (make a), k = key a) {a : β} (ha : a ∈ as) :
    get? (as.flatMap make) (key a) = get? (make a) (key a) := by
  induction as with
  | nil => cases ha
  | cons b bs ih =>
    obtain ⟨hb, hd⟩ := List.nodup_cons.1 hd
    obtain ⟨hmb, hmbs⟩ := List.forall_mem_cons.1 hmake
    rw [List.flatMap_cons, get?_append]
    rcases List.mem_cons.1 ha with rfl | ha
    · have hrest : get? (bs.flatMap make) (key a) = none := by
        refine get?_of_not_mem fun hm => ?_
        obtain ⟨v, hv⟩ := mem_keys.1 hm
        obtain ⟨c, hc, hv⟩ := List.mem_flatMap.1 hv
        exact hb (hmbs c hc _ (mem_keys.2 ⟨v, hv⟩) ▸ List.mem_map_of_mem hc)
      rw [hrest, Option.or_none]
    · have hfirst : get? (make b) (key a) = none :=
        get?_of_not_mem fun hm => hb (hmb _ hm ▸ List.mem_map_of_mem ha)
      rw [hfirst, Option.none_or, ih hd hmbs ha]

/-- A choice of entries that takes all entries of a key finds what was there. -/
theorem get?_filterMap {f : String × α → Option (String × α)} {k : String}
    (hf : ∀ e e', f e = some e' → e'.1 = e.1) (hk : ∀ e, e.1 = k → f e = some e) (es : List (String × α)) :
    get? (es.filterMap f) k = get? es k := by
  induction es with
  | nil => rfl
  | cons e es ih =>
    rw [get?_cons]
    by_cases he : e.1 = k
    · rw [List.filterMap_cons_some (hk e he), get?_cons]
      simp [he]
    · rw [if_neg he, ← ih]
      cases hfe : f e with
      | none => rw [List.filterMap_cons_none hfe]
      | some e' => rw [List.filterMap_cons_some hfe, get?_cons, if_neg (hf e e' hfe ▸ he)]

/-! ## Writing -/

theorem get?_put (es : List (String × α)) (k : String) (v : α) (k' : String) :
    get? (put es k v) k' = if k = k' then some v else get? es k' := by
  induction es with
  | nil => simp [put, get?]
  | cons e es ih =>
    by_cases h : e.1 = k
    · by_cases hk : k = k' <;> simp [put, get?_cons, h, hk]
    · simp only [put, beq_iff_eq, h, if_false, get?_cons, ih]
      by_cases hk : k = k'
      · simp [hk ▸ h, hk]
      · simp [hk]

theorem keys_put_of_mem {es : List (String × α)} {k : String} (h : k ∈ keys es) (v : α) :
    keys (put es k v) = keys es := by
  rw [keys_put, if_pos h]

theorem mem_keys_put (es : List (String × α)) (k : String) (v : α) {k' : String} (h : k' ∈ keys es) :
    k' ∈ keys (put es k v) := by
  rw [keys_put]
  split
  · exact h
  · exact List.mem_append_left _ h

theorem mem_keys_put_self (es : List (String × α)) (k : String) (v : α) : k ∈ keys (put es k v) := by
  rw [keys_put]
  split
  · assumption
  · exact List.mem_append_right _ List.mem_cons_self

theorem mem_put {es : List (String × α)} {k k' : String} {v v' : α} (h : (k', v') ∈ put es k v) :
    (k' = k ∧ v' = v) ∨ (k', v') ∈ es := by
  induction es with
  | nil => simpa [put] using h
  | cons e es ih =>
    unfold put at h
    split at h <;> rcases List.mem_cons.1 h with h | h
    · exact .inl (by simpa using h)
    · exact .inr (List.mem_cons_of_mem _ h)
    · exact .inr (h ▸ List.mem_cons_self)
    · exact (ih h).imp_right (List.mem_cons_of_mem _)

theorem isEmpty_put (es : List (String × α)) (k : String) (v : α) : (put es k v).isEmpty = false := by
  cases es with
  | nil => rfl
  | cons e es =>
    unfold put
    split <;> rfl

theorem put_append_of_not_mem {es : List (String × α)} {k : String} (h : k ∉ keys es) (fs : List (String × α))
    (v : α) : put (es ++ fs) k v = es ++ put fs k v := by
  induction es with
  | nil => rfl
  | cons e es ih =>
    have he : e.1 ≠ k := fun he => h (he ▸ List.mem_cons_self)
    simp only [List.cons_append, put, beq_iff_eq, if_neg he, ih (List.not_mem_of_not_mem_cons h)]

theorem put_map {β : Type} (f : α → β) (es : List (String × α)) (k : String) (v : α) :
    put (es.map fun e => (e.1, f e.2)) k (f v) = (put es k v).map fun e => (e.1, f e.2) := by
  induction es with
  | nil => rfl
  | cons e es ih =>
    unfold put
    rw [List.map_cons]
    dsimp only
    split
    · rfl
    · rw [ih, List.map_cons]

theorem put_of_get? {es : List (String × α)} {k : String} {v : α} (h : get? es k = some v) : put es k v = es := by
  induction es with
  | nil => cases h
  | cons e es ih =>
    rw [get?_cons] at h
    unfold put
    split at h
    · rename_i he
      cases h
      simp [← he]
    · rename_i he
      simp [he, ih h]

/-! ## Extensionality -/

/-- Where no key stands twice, the keys in their order and what they find are all there is. -/
theorem ext_get? {es fs : List (String × α)} (hd : Distinct es) (hk : keys es = keys fs)
    (hget : ∀ k ∈ keys es, get? es k = get? fs k) : es = fs := by
  induction es generalizing fs with
  | nil => exact (List.map_eq_nil_iff.1 hk.symm).symm
  | cons e es ih =>
    obtain ⟨hn, hd⟩ := List.nodup_cons.1 hd
    cases fs with
    | nil => cases hk
    | cons f fs =>
      obtain ⟨he, hks⟩ := List.cons.inj hk
      have hhead : e = f := by
        have := hget e.1 List.mem_cons_self
        rw [get?_cons, get?_cons, if_pos rfl, if_pos he.symm, Option.some_inj] at this
        exact Prod.ext he this
      have htail : ∀ k ∈ keys es, get? es k = get? fs k := by
        intro k hm
        have hne : e.1 ≠ k := fun h => hn (h ▸ hm)
        have := hget k (List.mem_cons_of_mem _ hm)
        rwa [get?_cons, get?_cons, if_neg hne, if_neg (hhead ▸ hne)] at this
      rw [hhead, ih hd hks htail]

/-! ## Lists of writes -/

theorem ofList_map {β : Type} (f : α → β) (writes : List (String × α)) :
    ofList (writes.map fun e => (e.1, f e.2)) = (ofList writes).map fun e => (e.1, f e.2) := by
  have main : ∀ ws es : List (String × α),
      (ws.map fun e => (e.1, f e.2)).foldl (fun es e => put es e.1 e.2) (es.map fun e => (e.1, f e.2)) =
        (ws.foldl (fun es e => put es e.1 e.2) es).map fun e => (e.1, f e.2) := by
    intro ws
    induction ws with
    | nil => exact fun _ => rfl
    | cons w ws ih =>
      intro es
      rw [List.map_cons, List.foldl_cons, List.foldl_cons, put_map, ih]
  exact main writes []

theorem distinct_ofList (writes : List (String × α)) : Distinct (ofList writes) := by
  have main : ∀ ws es : List (String × α), Distinct es →
      Distinct (ws.foldl (fun es e => put es e.1 e.2) es) := by
    intro ws
    induction ws with
    | nil => exact fun _ h => h
    | cons w ws ih => exact fun es h => ih _ (distinct_put h _ _)
  exact main writes [] List.nodup_nil

/-- Only written keys stand in a list of writes. -/
theorem mem_keys_ofList {writes : List (String × α)} {k : String} (h : k ∈ keys (ofList writes)) :
    k ∈ keys writes := by
  have main : ∀ (ws es : List (String × α)), k ∈ keys (ws.foldl (fun es e => put es e.1 e.2) es) →
      k ∈ keys es ∨ k ∈ keys ws := by
    intro ws
    induction ws with
    | nil => exact fun es h => .inl h
    | cons w ws ih =>
      intro es h
      rcases ih _ h with h | h
      · rw [keys_put] at h
        split at h
        · exact .inl h
        · rcases List.mem_append.1 h with h | h
          · exact .inl h
          · exact .inr (by simp [keys, List.mem_singleton.1 h])
      · exact .inr (List.mem_cons_of_mem _ h)
  rcases main writes [] h with h | h
  · cases h
  · exact h

end FieldRules.Keyed
