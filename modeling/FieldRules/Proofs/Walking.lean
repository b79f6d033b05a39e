import FieldRules.Engine.Walk
import FieldRules.Proofs.Entries
/-!
# What a walk leaves alone

The fields that must be present are filled in (`RuleSet.mem_keys_prefill`), and then every field with a rule is
visited. A visit keeps all fields in their order (`Walk.keys_of_fields`). Neither step touches a field that is
passed through (`RuleSet.get?_prefill`, `Walk.get?_of_fields`), and what a walk notes in a field are the acts of
the rule of that field (`Walk.note_of_fields`).
-/

namespace FieldRules

/-! ## Filling in -/

namespace RuleSet

theorem prefill_cons (field : String) (rule : FieldRule) (set : RuleSet) (fields : List (String × Value)) :
    prefill ((field, rule) :: set) fields = prefill set
      (if rule.demandsPresence && !rule.ignore && !Keyed.has fields field then
        Keyed.put fields field Value.empty else fields) := rfl

theorem mem_keys_prefill_of_mem {set : RuleSet} {fields : List (String × Value)} {k : String}
    (h : k ∈ Keyed.keys fields) : k ∈ Keyed.keys (prefill set fields) := by
  induction set generalizing fields with
  | nil => exact h
  | cons r set ih =>
    rw [prefill_cons]
    refine ih ?_
    split
    · exact Keyed.mem_keys_put _ _ _ h
    · exact h

/-- A field whose rule demands it is there. -/
theorem mem_keys_prefill {set : RuleSet} {field : String} {rule : FieldRule} (hm : (field, rule) ∈ set)
    (hd : rule.demandsPresence = true) (hi : rule.ignore = false) (fields : List (String × Value)) :
    field ∈ Keyed.keys (prefill set fields) := by
  induction set generalizing fields with
  | nil => cases hm
  | cons r set ih =>
    rcases List.mem_cons.1 hm with rfl | hm
    · rw [prefill_cons]
      refine mem_keys_prefill_of_mem ?_
      split
      · exact Keyed.mem_keys_put_self _ _ _
      · rename_i h
        exact Keyed.has_iff.1 (by simpa [hd, hi] using h)
    · exact ih hm _

/-- A field that is passed through is not filled in. -/
theorem get?_prefill {set : RuleSet} {k : String} (hk : ∀ rule, (k, rule) ∈ set → rule.ignore = true)
    (fields : List (String × Value)) : Keyed.get? (prefill set fields) k = Keyed.get? fields k := by
  induction set generalizing fields with
  | nil => rfl
  | cons r set ih =>
    rw [prefill_cons, ih fun rule hr => hk rule (List.mem_cons_of_mem _ hr)]
    split
    · rename_i h
      rw [Keyed.get?_put, if_neg]
      rintro rfl
      simp [hk r.2 List.mem_cons_self] at h
    · rfl

/-- What is there stays when fields are filled in. -/
theorem get?_prefill_of_some {set : RuleSet} {fields : List (String × Value)} {k : String} {v : Value}
    (h : Keyed.get? fields k = some v) : Keyed.get? (prefill set fields) k = some v := by
  induction set generalizing fields with
  | nil => exact h
  | cons r set ih =>
    rw [prefill_cons]
    apply ih
    split
    · rename_i hfill
      rw [Keyed.get?_put, if_neg, h]
      -- Only a field that is not there is filled in.
      rintro rfl
      simp [Keyed.has_iff.2 (Keyed.mem_keys_of_get? h)] at hfill
    · exact h

end RuleSet

/-! ## Walking -/

namespace Walk

theorem Walked.after_ok {α : Type} {ns notes : List Note} {w : Walked α}
    (h : (w.after ns).outcome = .ok notes) : ∃ ms, w.outcome = .ok ms ∧ notes = ns ++ ms := by
  unfold Walked.after at h
  cases ho : w.outcome with
  | error f => simp [ho, Except.map] at h
  | ok ms =>
    simp only [ho, Except.map, Except.ok.injEq] at h
    exact ⟨ms, rfl, h.symm⟩

/-! ### The notes on one field -/

theorem visitEntries_cons_ok {probing : Bool} {leaf : List String → Value → Traced (Walked Value)}
    {path : List String} {key : String} {v : Value} {rest : List (String × Value)} {notes : List Note}
    (h : (visitEntries probing leaf path ((key, v) :: rest)).value.outcome = .ok notes) :
    ∃ ns ms, (visit probing leaf (path ++ [key]) v).value.outcome = .ok ns ∧
      (visitEntries probing leaf path rest).value.outcome = .ok ms ∧ notes = ns ++ ms := by
  unfold visitEntries at h
  rw [Traced.value_bind] at h
  cases hv : (visit probing leaf (path ++ [key]) v).value.outcome with
  | error f =>
    simp only [hv] at h
    cases h
  | ok ns =>
    simp only [hv] at h
    obtain ⟨ms, hms, rfl⟩ := Walked.after_ok h
    exact ⟨ns, ms, rfl, hms, rfl⟩

/-- If this ended well, then all it noted are these acts, for places at the path or below it. -/
def NotesBelow (path : List String) (acts : List Deferred) (outcome : Except Failure (List Note)) : Prop :=
  ∀ notes, outcome = .ok notes → ∀ note ∈ notes, path <+: note.path ∧ note.acts = acts

section
variable {leaf : List String → Value → Traced (Walked Value)} {acts : List Deferred}

mutual

/-- A visit notes below its path what it notes on a leaf. -/
theorem notesBelow_visit (hleaf : ∀ path v, NotesBelow path acts (leaf path v).value.outcome)
    (probing : Bool) : ∀ (v : Value) (path : List String),
      NotesBelow path acts (visit probing leaf path v).value.outcome
  | .map entries, path => by
    unfold visit
    split
    · split
      · exact hleaf path Value.empty
      · rintro notes ⟨⟩ note hn
        cases hn
    · exact notesBelow_visitEntries hleaf probing entries path
  | .null, path | .bool _, path | .int _, path | .float _, path | .text _, path | .moment _, path
  | .upload _, path => hleaf path _
termination_by structural v => v

theorem notesBelow_visitEntries (hleaf : ∀ path v, NotesBelow path acts (leaf path v).value.outcome)
    (probing : Bool) : ∀ (entries : List (String × Value)) (path : List String),
      NotesBelow path acts (visitEntries probing leaf path entries).value.outcome
  | [], path => by
    rintro notes ⟨⟩ note hn
    cases hn
  | (key, v) :: rest, path => by
    intro notes h note hn
    obtain ⟨ns, ms, hns, hms, rfl⟩ := visitEntries_cons_ok h
    rcases List.mem_append.1 hn with hn | hn
    · obtain ⟨hpath, hacts⟩ := notesBelow_visit hleaf probing v (path ++ [key]) ns hns note hn
      exact ⟨(List.prefix_append path [key]).trans hpath, hacts⟩
    · exact notesBelow_visitEntries hleaf probing rest path ms hms note hn
termination_by structural es => es

end

end

theorem notesBelow_leaf (scope : Scope) (checks : List Token) (acts : List Deferred) (path : List String)
    (v : Value) : NotesBelow path acts (leaf scope checks acts path v).value.outcome := by
  intro notes h note hn
  unfold leaf at h
  rw [Traced.value_bind] at h
  split at h
  rename_i failure _
  cases failure <;> cases h
  rw [List.mem_singleton.1 hn]
  exact ⟨List.prefix_rfl, rfl⟩

theorem notesBelow_wholeArray (scope : Scope) (rule : FieldRule) (path : List String)
    (entries : List (String × Value)) :
    NotesBelow path rule.acts (wholeArray scope rule path entries).value.outcome := by
  unfold wholeArray
  rw [Traced.value_bind]
  split
  rename_i failure _
  cases failure with
  | some f =>
    intro notes h
    cases h
  | none => exact notesBelow_visit (fun _ _ => notesBelow_leaf _ _ _ _ _) false _ path

theorem notesBelow_field (scope : Scope) (rule : FieldRule) (path : List String) (v : Value) :
    NotesBelow path rule.acts (field scope rule path v).value.outcome := by
  unfold field
  split
  · split
    · exact notesBelow_wholeArray _ _ _ _
    · exact notesBelow_visit (fun _ _ => notesBelow_leaf _ _ _ _ _) true _ path
  · exact notesBelow_visit (fun _ _ => notesBelow_leaf _ _ _ _ _) true _ path

/-! ### All fields -/

/-- A field that is not there, or that is passed through. -/
def Skips (tree : List (String × Value)) (r : String × FieldRule) : Prop :=
  Keyed.get? tree r.1 = none ∨ r.2.ignore = true

theorem exists_of_not_skips {tree : List (String × Value)} {name : String} {rule : FieldRule}
    (h : ¬ Skips tree (name, rule)) : ∃ v, Keyed.get? tree name = some v ∧ rule.ignore = false := by
  obtain ⟨hv, hi⟩ := not_or.1 h
  obtain ⟨v, hv⟩ := Option.ne_none_iff_exists.1 hv
  exact ⟨v, hv.symm, by simpa using hi⟩

/-- One step of a walk that ends well: a field that is not there or is passed through is left out, and any
other is visited and put back. -/
theorem fields_cons_ok {scope : Scope} {name : String} {rule : FieldRule} {set : RuleSet}
    {tree walked : List (String × Value)} {notes : List Note}
    (h : (fields scope ((name, rule) :: set) tree).value = ⟨walked, .ok notes⟩) :
    Skips tree (name, rule) ∧ (fields scope set tree).value = ⟨walked, .ok notes⟩ ∨
      ∃ v w ns ms, Keyed.get? tree name = some v ∧ rule.ignore = false ∧
        (field scope rule [name] v).value = ⟨w, .ok ns⟩ ∧
        (fields scope set (Keyed.put tree name w)).value = ⟨walked, .ok ms⟩ ∧ notes = ns ++ ms := by
  unfold fields at h
  split at h
  · exact .inl ⟨.inl ‹_›, h⟩
  · rename_i v hv
    split at h
    · exact .inl ⟨.inr ‹_›, h⟩
    · rename_i hi
      rw [Traced.value_bind] at h
      rcases hw : (field scope rule [name] v).value with ⟨w, outcome⟩
      cases outcome with
      | error f =>
        simp only [hw] at h
        cases h
      | ok ns =>
        rcases hrest : (fields scope set (Keyed.put tree name w)).value with ⟨x, outcome⟩
        simp only [hw, Traced.value_bind, Traced.value_pure, hrest] at h
        obtain ⟨ms, rfl, rfl⟩ := Walked.after_ok (congrArg Walked.outcome h)
        obtain rfl : x = walked := congrArg Walked.value h
        exact .inr ⟨v, w, ns, ms, hv, by simpa using hi, hw, hrest, rfl⟩

section
variable {scope : Scope} {set : RuleSet} {tree walked : List (String × Value)} {notes : List Note}

/-- A walk keeps the fields and their order. -/
theorem keys_of_fields (h : (fields scope set tree).value = ⟨walked, .ok notes⟩) :
    Keyed.keys walked = Keyed.keys tree := by
  induction set generalizing tree notes with
  | nil =>
    cases h
    rfl
  | cons r set ih =>
    rcases fields_cons_ok h with ⟨-, h⟩ | ⟨v, w, ns, ms, hv, -, -, h, -⟩
    · exact ih h
    · rw [ih h, Keyed.keys_put_of_mem (Keyed.mem_keys_of_get? hv)]

/-- A field that is passed through stays. -/
theorem get?_of_fields {k : String} (hk : ∀ rule, (k, rule) ∈ set → rule.ignore = true)
    (h : (fields scope set tree).value = ⟨walked, .ok notes⟩) : Keyed.get? walked k = Keyed.get? tree k := by
  induction set generalizing tree notes with
  | nil =>
    cases h
    rfl
  | cons r set ih =>
    have hk' : ∀ rule, (k, rule) ∈ set → rule.ignore = true := fun rule hr =>
      hk rule (List.mem_cons_of_mem _ hr)
    rcases fields_cons_ok h with ⟨-, h⟩ | ⟨v, w, ns, ms, -, hi, -, h, -⟩
    · exact ih hk' h
    · rw [ih hk' h, Keyed.get?_put, if_neg]
      rintro rfl
      rw [hk r.2 List.mem_cons_self] at hi
      cases hi

/-- What is noted is noted in a field that is not passed through, and it is the acts of the field's rule. -/
theorem note_of_fields (h : (fields scope set tree).value = ⟨walked, .ok notes⟩) : ∀ note ∈ notes,
    ∃ name rule, (name, rule) ∈ set ∧ rule.ignore = false ∧ [name] <+: note.path ∧ note.acts = rule.acts := by
  induction set generalizing tree notes with
  | nil =>
    cases h
    simp
  | cons r set ih =>
    intro note hn
    rcases fields_cons_ok h with ⟨-, h⟩ | ⟨v, w, ns, ms, -, hi, hw, hrest, rfl⟩
    · obtain ⟨name, rule, hm, hrule⟩ := ih h note hn
      exact ⟨name, rule, List.mem_cons_of_mem _ hm, hrule⟩
    · rcases List.mem_append.1 hn with hn | hn
      · obtain ⟨hpath, hacts⟩ := notesBelow_field _ _ _ _ ns (congrArg Walked.outcome hw) note hn
        exact ⟨r.1, r.2, List.mem_cons_self, hi, hpath, hacts⟩
      · obtain ⟨name, rule, hm, hrule⟩ := ih hrest note hn
        exact ⟨name, rule, List.mem_cons_of_mem _ hm, hrule⟩

end

end Walk

end FieldRules
