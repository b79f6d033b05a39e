import FieldRules.Engine.Validation
import FieldRules.Proofs.CleanText
import FieldRules.Proofs.Rules
/-!
# What is delivered at a place

`Value.At` says that a node stands in a tree under a path of keys. `deliver_at` says what cleaning makes of the
texts of a tree, place by place: outside the fields that are passed through, a text is delivered at a place just
if a text stood there that `Policy.deliverText?` turns into it. `get?_deliver` says what becomes of a field that
is passed through.
-/

namespace FieldRules

/-! ## Places -/

/-- A node stands in a tree under a path of keys, the outermost first. -/
inductive Value.At : Value → List String → Value → Prop where
  | root (v : Value) : v.At [] v
  | entry {entries : List (String × Value)} {key : String} {v : Value} {path : List String} {node : Value} :
      (key, v) ∈ entries → v.At path node → (Value.map entries).At (key :: path) node

namespace Value

theorem at_nil {v node : Value} : v.At [] node ↔ node = v := by
  constructor
  · rintro ⟨⟩
    rfl
  · rintro rfl
    exact .root _

theorem at_cons {entries : List (String × Value)} {key : String} {path : List String} {node : Value} :
    (Value.map entries).At (key :: path) node ↔ ∃ v, (key, v) ∈ entries ∧ v.At path node := by
  constructor
  · rintro ⟨⟩
    exact ⟨_, ‹_›, ‹_›⟩
  · rintro ⟨v, hv, hn⟩
    exact .entry hv hn

/-- Only in a map does something stand below the root. -/
theorem At.exists_map {v node : Value} {key : String} {path : List String} (h : v.At (key :: path) node) :
    ∃ entries, v = .map entries := by
  cases h
  exact ⟨_, rfl⟩

/-! ## Emptying marked leaves -/

theorem emptyMarkedEntries_eq (entries : List (String × Value)) :
    emptyMarkedEntries entries = entries.map fun e => (e.1, e.2.emptyMarked) := by
  induction entries with
  | nil => rfl
  | cons e es ih => rw [emptyMarkedEntries, ih, List.map_cons]

theorem mem_emptyMarkedEntries {entries : List (String × Value)} {key : String} {w : Value} :
    (key, w) ∈ emptyMarkedEntries entries ↔ ∃ v, (key, v) ∈ entries ∧ w = v.emptyMarked := by
  rw [emptyMarkedEntries_eq]
  constructor
  · intro h
    obtain ⟨⟨k, v⟩, hv, he⟩ := List.mem_map.1 h
    cases he
    exact ⟨v, hv, rfl⟩
  · rintro ⟨v, hv, rfl⟩
    exact List.mem_map.2 ⟨_, hv, rfl⟩

theorem emptyMarked_eq_map {v : Value} {entries : List (String × Value)} (h : v.emptyMarked = .map entries) :
    ∃ es, v = .map es ∧ entries = emptyMarkedEntries es := by
  cases v <;> simp only [emptyMarked, reduceCtorEq, Value.map.injEq] at h
  exact ⟨_, rfl, h.symm⟩

theorem emptyMarked_at {v node : Value} {path : List String} :
    v.emptyMarked.At path node ↔ ∃ n, v.At path n ∧ node = n.emptyMarked := by
  induction path generalizing v with
  | nil => simp [at_nil]
  | cons key path ih =>
    constructor
    · intro h
      obtain ⟨_, he⟩ := h.exists_map
      obtain ⟨es, rfl, rfl⟩ := emptyMarked_eq_map he
      rw [he] at h
      obtain ⟨w, hw, hn⟩ := at_cons.1 h
      obtain ⟨v, hv, rfl⟩ := mem_emptyMarkedEntries.1 hw
      obtain ⟨n, hat, rfl⟩ := ih.1 hn
      exact ⟨n, .entry hv hat, rfl⟩
    · rintro ⟨n, h, rfl⟩
      obtain ⟨es, rfl⟩ := h.exists_map
      obtain ⟨v, hv, hn⟩ := at_cons.1 h
      exact .entry (mem_emptyMarkedEntries.2 ⟨v, hv, rfl⟩) (ih.2 ⟨n, hn, rfl⟩)

mutual

/-- A tree without marked leaves stays. -/
theorem emptyMarked_of_unmarked : ∀ v : Value, (∀ path, ¬ v.At path (.text notNullMark)) → v.emptyMarked = v
  | .text s, h => by
    have hs : s ≠ notNullMark := fun he => h [] (at_nil.2 (he ▸ rfl))
    simp [emptyMarked, hs]
  | .map entries, h => by
    rw [emptyMarked, emptyMarkedEntries_of_unmarked entries fun key v hv path hn =>
      h (key :: path) (.entry hv hn)]
  | .null, _ | .bool _, _ | .int _, _ | .float _, _ | .moment _, _ | .upload _, _ => rfl
termination_by structural v => v

theorem emptyMarkedEntries_of_unmarked : ∀ entries : List (String × Value),
    (∀ key v, (key, v) ∈ entries → ∀ path, ¬ v.At path (.text notNullMark)) →
      emptyMarkedEntries entries = entries
  | [], _ => rfl
  | (key, v) :: rest, h => by
    rw [emptyMarkedEntries, emptyMarked_of_unmarked v (h key v List.mem_cons_self),
      emptyMarkedEntries_of_unmarked rest fun k w hw => h k w (List.mem_cons_of_mem _ hw)]
termination_by structural es => es

end

/-- No marked leaf is left. -/
theorem not_emptyMarked_at (v : Value) (path : List String) : ¬ v.emptyMarked.At path (.text notNullMark) := by
  intro h
  obtain ⟨n, -, hn⟩ := emptyMarked_at.1 h
  cases n <;> simp only [emptyMarked, reduceCtorEq, Value.text.injEq] at hn
  rename_i s
  by_cases hs : s = notNullMark
  · simp [hs, notNullMark] at hn
  · simp [hs] at hn
    exact hs hn.symm

theorem emptyMarked_eq_self_iff {v : Value} : v.emptyMarked = v ↔ ∀ path, ¬ v.At path (.text notNullMark) := by
  constructor
  · intro h path
    rw [← h]
    exact not_emptyMarked_at v path
  · exact emptyMarked_of_unmarked v

end Value

/-! ## Cleaning -/

namespace Policy

variable {policy : Policy}

theorem mem_cleanEntries {entries : List (String × Value)} {key : String} {w : Value} :
    (key, w) ∈ cleanEntries policy entries ↔
      ∃ v, (key, v) ∈ entries ∧ w = policy.clean v ∧ w.isBlank = false := by
  induction entries with
  | nil => simp [cleanEntries]
  | cons e es ih =>
    obtain ⟨k, v⟩ := e
    rw [cleanEntries]
    cases hb : (policy.clean v).isBlank
    · simp only [Bool.false_eq_true, if_false, List.mem_cons, ih, Prod.mk.injEq]
      constructor
      · rintro (⟨rfl, rfl⟩ | ⟨u, hu, hw⟩)
        · exact ⟨v, .inl ⟨rfl, rfl⟩, rfl, hb⟩
        · exact ⟨u, .inr hu, hw⟩
      · rintro ⟨u, ⟨rfl, rfl⟩ | hu, hw⟩
        · exact .inl ⟨rfl, hw.1⟩
        · exact .inr ⟨u, hu, hw⟩
    · simp only [if_true, ih, List.mem_cons, Prod.mk.injEq]
      constructor
      · rintro ⟨u, hu, hw⟩
        exact ⟨u, .inr hu, hw⟩
      · rintro ⟨u, ⟨rfl, rfl⟩ | hu, rfl, hw⟩
        · rw [hb] at hw
          cases hw
        · exact ⟨u, hu, rfl, hw⟩

theorem clean_eq_map {v : Value} {entries : List (String × Value)} (h : policy.clean v = .map entries) :
    ∃ es, v = .map es ∧ entries = cleanEntries policy es := by
  cases v <;> simp only [clean, reduceCtorEq, Value.map.injEq] at h
  exact ⟨_, rfl, h.symm⟩

/-- What leads to a node that is kept is kept. -/
theorem clean_not_blank_of_at {v n : Value} {path : List String} (h : v.At path n)
    (hn : (policy.clean n).isBlank = false) : (policy.clean v).isBlank = false := by
  cases h with
  | root => exact hn
  | entry _ _ => rfl

/-- Of a node that is kept, just the nodes are kept that are not blank when they have been cleaned. -/
theorem clean_at {v node : Value} {path : List String} (hv : (policy.clean v).isBlank = false) :
    (policy.clean v).At path node ↔ ∃ n, v.At path n ∧ node = policy.clean n ∧ node.isBlank = false := by
  induction path generalizing v with
  | nil =>
    simp only [Value.at_nil]
    constructor
    · rintro rfl
      exact ⟨v, rfl, rfl, hv⟩
    · rintro ⟨n, rfl, rfl, -⟩
      rfl
  | cons key path ih =>
    constructor
    · intro h
      obtain ⟨_, he⟩ := h.exists_map
      obtain ⟨es, rfl, rfl⟩ := clean_eq_map he
      rw [he] at h
      obtain ⟨w, hw, hn⟩ := Value.at_cons.1 h
      obtain ⟨u, hu, rfl, hb⟩ := mem_cleanEntries.1 hw
      obtain ⟨n, hn, hnode⟩ := (ih hb).1 hn
      exact ⟨n, .entry hu hn, hnode⟩
    · rintro ⟨n, h, hnode⟩
      obtain ⟨es, rfl⟩ := h.exists_map
      obtain ⟨u, hu, hn⟩ := Value.at_cons.1 h
      have hb := clean_not_blank_of_at hn (hnode.1 ▸ hnode.2)
      exact .entry (mem_cleanEntries.2 ⟨u, hu, rfl, hb⟩) ((ih hb).2 ⟨n, hn, hnode⟩)

/-- What is delivered of a leaf is a text just if the leaf is one. -/
theorem clean_emptyMarked_eq_text {n : Value} {t : String} :
    ((policy.clean n).isBlank = false ∧ (policy.clean n).emptyMarked = .text t) ↔
      ∃ s, n = .text s ∧ policy.deliverText? s = some t := by
  simp only [deliverText?_eq_some]
  cases n <;> simp [clean, Value.isBlank, Value.emptyMarked, @eq_comm _ t]

theorem clean_isBlank {v : Value} :
    (policy.clean v).isBlank = true ↔ ∃ s, v = .text s ∧ policy.deliverText? s = none := by
  cases v <;> simp [clean, Value.isBlank, deliverText?]

end Policy

/-! ## Delivering -/

/-- The fields of a tree as they are delivered. -/
def deliveredFields (policy : Policy) (untouched : List String) (fields : List (String × Value)) :
    List (String × Value) :=
  Value.emptyMarkedEntries (policy.cleanFields untouched fields)

theorem deliver_map (policy : Policy) (set : RuleSet) (fields : List (String × Value)) :
    Validation.deliver policy set (.map fields) = .map (deliveredFields policy set.ignored fields) := rfl

section
variable {policy : Policy} {untouched : List String} {fields : List (String × Value)}

theorem Policy.key_of_cleanField {e e' : String × Value} (h : policy.cleanField untouched e = some e') :
    e'.1 = e.1 := by
  simp only [cleanField] at h
  split at h
  · cases h
    rfl
  · split at h <;> cases h
    rfl

theorem Policy.mem_cleanFields {key : String} {w : Value} :
    (key, w) ∈ policy.cleanFields untouched fields ↔ key ≠ policyKey ∧ ∃ v, (key, v) ∈ fields ∧
      if key ∈ untouched then w = v else w = policy.clean v ∧ w.isBlank = false := by
  simp only [cleanFields, List.mem_filterMap, Keyed.remove, List.mem_filter, bne_iff_ne, cleanField,
    List.contains_iff_mem]
  constructor
  · rintro ⟨⟨k, v⟩, ⟨hv, hk⟩, he⟩
    split at he
    · cases he
      exact ⟨hk, w, hv, by rw [if_pos ‹_›]⟩
    · split at he <;> cases he
      rename_i hu hb
      exact ⟨hk, v, hv, by rw [if_neg hu]; exact ⟨rfl, Bool.not_eq_true _ ▸ hb⟩⟩
  · rintro ⟨hk, v, hv, hw⟩
    refine ⟨(key, v), ⟨hv, hk⟩, ?_⟩
    split at hw
    · rw [if_pos ‹_›, hw]
    · rw [if_neg ‹_›, ← hw.1, hw.2]
      rfl

/-- A field that is not passed through is left out just if it is a text that turns into nothing. -/
theorem not_mem_keys_deliveredFields {key : String} (hkey : key ∉ untouched) (hp : key ≠ policyKey) :
    key ∉ Keyed.keys (deliveredFields policy untouched fields) ↔
      ∀ v, (key, v) ∈ fields → ∃ s, v = .text s ∧ policy.deliverText? s = none := by
  simp only [Keyed.mem_keys, deliveredFields, Value.mem_emptyMarkedEntries, Policy.mem_cleanFields, if_neg hkey,
    ← Policy.clean_isBlank]
  constructor
  · intro h v hv
    cases hb : (policy.clean v).isBlank with
    | true => rfl
    | false => exact absurd ⟨_, _, ⟨hp, v, hv, rfl, hb⟩, rfl⟩ h
  · rintro h ⟨_, _, ⟨-, v, hv, rfl, hb⟩, rfl⟩
    rw [h v hv] at hb
    cases hb

/-- What is delivered at a place is made of a node that stood there: in a field that is passed through its marked leaves
are emptied, and in any other it is cleaned first and left out if it is blank then. -/
theorem deliveredFields_at {key : String} {path : List String} {node : Value} :
    (Value.map (deliveredFields policy untouched fields)).At (key :: path) node ↔
      key ≠ policyKey ∧ ∃ n, (Value.map fields).At (key :: path) n ∧
        if key ∈ untouched then node = n.emptyMarked
        else (policy.clean n).isBlank = false ∧ node = (policy.clean n).emptyMarked := by
  simp only [Value.at_cons, deliveredFields, Value.mem_emptyMarkedEntries, Policy.mem_cleanFields]
  by_cases hkey : key ∈ untouched
  · simp only [if_pos hkey]
    constructor
    · rintro ⟨_, ⟨_, ⟨hk, v, hv, rfl⟩, rfl⟩, hat⟩
      obtain ⟨n, hn, hnode⟩ := Value.emptyMarked_at.1 hat
      exact ⟨hk, n, ⟨_, hv, hn⟩, hnode⟩
    · rintro ⟨hk, n, ⟨v, hv, hat⟩, hnode⟩
      exact ⟨_, ⟨v, ⟨hk, v, hv, rfl⟩, rfl⟩, Value.emptyMarked_at.2 ⟨n, hat, hnode⟩⟩
  · simp only [if_neg hkey]
    constructor
    · rintro ⟨_, ⟨_, ⟨hk, v, hv, rfl, hb⟩, rfl⟩, hat⟩
      obtain ⟨_, hc, hnode⟩ := Value.emptyMarked_at.1 hat
      obtain ⟨n, hn, rfl, hnb⟩ := (Policy.clean_at hb).1 hc
      exact ⟨hk, n, ⟨v, hv, hn⟩, hnb, hnode⟩
    · rintro ⟨hk, n, ⟨v, hv, hat⟩, hnb, hnode⟩
      have hb := Policy.clean_not_blank_of_at hat hnb
      exact ⟨_, ⟨_, ⟨hk, v, hv, rfl, hb⟩, rfl⟩,
        Value.emptyMarked_at.2 ⟨_, (Policy.clean_at hb).2 ⟨n, hat, rfl, hnb⟩, hnode⟩⟩

/-- Outside the fields that are passed through, a text is delivered just where a text stood that turns into
it. -/
theorem deliveredFields_text_at {key : String} (hkey : key ∉ untouched) {path : List String} {t : String} :
    (Value.map (deliveredFields policy untouched fields)).At (key :: path) (.text t) ↔
      key ≠ policyKey ∧
        ∃ s, (Value.map fields).At (key :: path) (.text s) ∧ policy.deliverText? s = some t := by
  rw [deliveredFields_at]
  simp only [if_neg hkey, @eq_comm _ (Value.text t), Policy.clean_emptyMarked_eq_text]
  constructor
  · rintro ⟨hk, _, hat, s, rfl, hs⟩
    exact ⟨hk, s, hat, hs⟩
  · rintro ⟨hk, s, hat, hs⟩
    exact ⟨hk, _, hat, s, rfl, hs⟩

/-- A field that is passed through is delivered with its marked leaves emptied. -/
theorem get?_deliveredFields {key : String} (hkey : key ∈ untouched) (hp : key ≠ policyKey) :
    Keyed.get? (deliveredFields policy untouched fields) key =
      (Keyed.get? fields key).map Value.emptyMarked := by
  have hk : ∀ e, e.1 = key → policy.cleanField untouched e = some e := by
    rintro e rfl
    simp [Policy.cleanField, hkey]
  rw [deliveredFields, Value.emptyMarkedEntries_eq, Keyed.get?_map, Policy.cleanFields,
    Keyed.get?_filterMap (fun _ _ => Policy.key_of_cleanField) hk, Keyed.get?_remove hp]

end

end FieldRules
