import FieldRules.Engine.Walk
import FieldRules.Proofs.Tree
/-!
# What deferred acts do to a tree

The acts of plans change only the fields that the plans name (`Plan.get?_performAll`), and they neither add nor
move a field (`Plan.keys_performAll`). Plans name a field only where something was noted in it
(`Walk.noted_plan`). Of the acts only `notNull` makes a text that may be taken for the mark: any other text with
an underscore stood in the tree before (`Plan.text_at_of_performAll`).
-/

namespace FieldRules

/-! ## Written scalars -/

theorem Text.underscore_not_mem_padded (width n : Nat) : '_' ∉ padded width n := by
  simp [padded, Nat.underscore_not_in_toDigits]

theorem Text.underscore_not_mem_showInt (n : Int) : '_' ∉ (showInt n).toList := by
  cases n <;> simp [showInt, showNat, Nat.underscore_not_in_toDigits]

theorem Date.underscore_not_mem_text (d : Date) : '_' ∉ d.text.toList := by
  have hyear : '_' ∉ yearText d.year := by
    unfold yearText
    split
    · exact Text.underscore_not_mem_padded _ _
    · split <;> simp [Text.underscore_not_mem_padded]
  simp [text, hyear, Text.underscore_not_mem_padded]

theorem Moment.underscore_not_mem_text (m : Moment) : '_' ∉ m.text.toList := by
  simp [text, Date.underscore_not_mem_text, Clock.text, Text.underscore_not_mem_padded]

theorem Binary64.underscore_not_mem_positionalText {keepPoint : Bool} {ds : List Char} (hds : '_' ∉ ds)
    (p : Int) : '_' ∉ positionalText keepPoint ds p := by
  unfold positionalText
  split
  · cases keepPoint <;> simp [hds]
  · have h : ∀ n, '_' ∉ List.replicate n '0' ++ ds := by
      intro n
      simp [hds]
    simp only [List.mem_append, List.mem_cons, not_or]
    exact ⟨fun hm => h _ (List.mem_of_mem_take hm), by decide, fun hm => h _ (List.mem_of_mem_drop hm)⟩

theorem Binary64.underscore_not_mem_toText (x : Binary64) : '_' ∉ x.toText.toList := by
  unfold toText
  split
  · decide
  · split <;> decide
  · have h : ∀ n p, '_' ∉ positionalText false (Nat.toDigits 10 n) p := fun n p =>
      underscore_not_mem_positionalText Nat.underscore_not_in_toDigits p
    rename_i negative mantissa exponent
    cases negative <;> simp [finiteText, plain, h]

/-- Only the text of a text has an underscore. -/
theorem Value.eq_text_of_scalarText? {v : Value} {s : String} (h : v.scalarText? = some s)
    (hs : '_' ∈ s.toList) : v = .text s := by
  cases v <;> simp only [scalarText?, Option.some.injEq, reduceCtorEq] at h <;> subst h
  · exact absurd hs (by decide)
  · exact absurd hs (by split <;> decide)
  · exact absurd hs (Text.underscore_not_mem_showInt _)
  · exact absurd hs (Binary64.underscore_not_mem_toText _)
  · rfl
  · exact absurd hs (Moment.underscore_not_mem_text _)

/-! ## Acts on one node -/

namespace Target

theorem not_text_at_of_map {α : Type} {leaf : α → Value} (hleaf : ∀ a path s, ¬ (leaf a).At path (.text s))
    {o : Option α} {w : Value} (h : o.map leaf = some w) (path : List String) (s : String) :
    ¬ w.At path (.text s) := by
  cases o with
  | none => cases h
  | some a =>
    cases h
    exact hleaf a path s

/-- A text is converted to a leaf that is no text. -/
theorem not_text_at_of_ofText? {target : Target} {t : String} {w : Value} (h : target.ofText? t = some w) :
    ∀ path s, ¬ w.At path (.text s) := by
  cases target with
  | string => cases h
  | integer =>
    simp only [ofText?] at h
    split at h
    · exact not_text_at_of_map (by rintro _ _ _ ⟨⟩) h
    · cases h
  | float | round _ | boolean | dateTime =>
    simp only [ofText?] at h
    exact not_text_at_of_map (by rintro _ _ _ ⟨⟩) h

/-- A conversion to a text gives the text of the scalar, and no other gives one. -/
theorem text_at_of_convertScalar {target : Target} {v w : Value} {text : String}
    (h : target.convertScalar v text = .ok w) {path : List String} {s : String} (hw : w.At path (.text s)) :
    path = [] ∧ s = text := by
  unfold convertScalar at h
  split at h
  · cases h
    cases hw
    exact ⟨rfl, rfl⟩
  · cases h
    cases hw
  · split at h
    · cases h
      exact absurd hw (not_text_at_of_ofText? ‹_› _ _)
    · cases h

end Target

namespace Deferred

/-- A text with an underscore that an act other than `notNull` leaves somewhere stood there before. -/
theorem text_at_of_act {d : Deferred} {v w : Value} (h : d.act v = .ok w) (hd : d ≠ .notNull)
    {path : List String} {s : String} (hs : '_' ∈ s.toList) (hw : w.At path (.text s)) :
    v.At path (.text s) := by
  cases d with
  | notNull => exact absurd rfl hd
  | null =>
    simp only [act, Except.ok.injEq] at h
    split at h
    · subst h
      cases hw
    · exact h ▸ hw
  | format target =>
    simp only [act, Target.convert] at h
    split at h
    · cases h
      exact hw
    · cases h
      exact hw
    · cases h
      exact hw
    · split at h
      · cases h
        exact hw
      · -- The leaf was turned into its own text, and only a text has one with an underscore.
        obtain ⟨rfl, rfl⟩ := Target.text_at_of_convertScalar h hw
        cases hv : v.scalarText? with
        | none =>
          rw [hv] at hs
          cases hs
        | some t =>
          rw [hv] at hs
          exact Value.at_nil.2 (Value.eq_text_of_scalarText? hv hs).symm

/-- The same of acts one after another, whether or not one of them fails. -/
theorem text_at_of_actAll {ds : List Deferred} (hds : .notNull ∉ ds) {v : Value} {path : List String}
    {s : String} (hs : '_' ∈ s.toList) (hw : (actAll ds v).1.At path (.text s)) : v.At path (.text s) := by
  induction ds generalizing v with
  | nil => exact hw
  | cons d ds ih =>
    obtain ⟨hd, hds⟩ := not_or.1 (List.mem_cons.not.1 hds)
    unfold actAll at hw
    split at hw
    · rename_i w hact
      exact text_at_of_act hact (Ne.symm hd) hs (ih hds hw)
    · exact hw

end Deferred

/-! ## The acts of a plan -/

namespace Plan

mutual

/-- All acts of a plan. -/
def acts : Plan → List Deferred
  | .leaf acts => acts
  | .nested entries => entryActs entries
termination_by structural p => p

def entryActs : List (String × Plan) → List Deferred
  | [] => []
  | (_, plan) :: rest => acts plan ++ entryActs rest
termination_by structural ps => ps

end

theorem mem_entryActs {entries : List (String × Plan)} {d : Deferred} :
    d ∈ entryActs entries ↔ ∃ key plan, (key, plan) ∈ entries ∧ d ∈ plan.acts := by
  induction entries with
  | nil => simp [entryActs]
  | cons e es ih =>
    rw [entryActs, List.mem_append, ih]
    constructor
    · rintro (h | ⟨key, plan, hm, h⟩)
      · exact ⟨e.1, e.2, List.mem_cons_self, h⟩
      · exact ⟨key, plan, List.mem_cons_of_mem _ hm, h⟩
    · rintro ⟨key, plan, hm, h⟩
      rcases List.mem_cons.1 hm with rfl | hm
      · exact .inl h
      · exact .inr ⟨key, plan, hm, h⟩

theorem mem_entryActs_inner {entries : List (String × Plan)} {key : String} {d : Deferred}
    (h : d ∈ entryActs (inner (Keyed.get? entries key))) : ∃ plan, (key, plan) ∈ entries ∧ d ∈ plan.acts := by
  unfold inner at h
  split at h
  · exact ⟨.nested _, Keyed.mem_of_get? ‹_›, h⟩
  · cases h

/-- What is noted at a path changes the plan of the first key only, and adds no other acts to it. -/
theorem mem_insert {new : List Deferred} {first : String} {path : List String} {entries : List (String × Plan)}
    {key : String} {plan : Plan} (h : (key, plan) ∈ insert new (first :: path) entries) :
    (key, plan) ∈ entries ∨
      key = first ∧ ∀ d ∈ plan.acts, d ∈ new ∨ ∃ old, (key, old) ∈ entries ∧ d ∈ old.acts := by
  induction path generalizing first entries key plan with
  | nil =>
    rcases Keyed.mem_put h with ⟨rfl, rfl⟩ | h
    · exact .inr ⟨rfl, fun d hd => .inl hd⟩
    · exact .inl h
  | cons next path ih =>
    rcases Keyed.mem_put h with ⟨rfl, rfl⟩ | h
    · refine .inr ⟨rfl, fun d hd => ?_⟩
      -- The plan of the first key is what the rest of the path makes of the plans inside it.
      obtain ⟨k, p, hp, hd⟩ := mem_entryActs.1 hd
      rcases ih hp with hp | ⟨-, hacts⟩
      · exact .inr (mem_entryActs_inner (mem_entryActs.2 ⟨k, p, hp, hd⟩))
      · rcases hacts d hd with hd | ⟨old, ho, hd⟩
        · exact .inl hd
        · exact .inr (mem_entryActs_inner (mem_entryActs.2 ⟨k, old, ho, hd⟩))
    · exact .inl h

theorem mem_note {new : List Deferred} {path : List String} {entries : List (String × Plan)} {key : String}
    {plan : Plan} (h : (key, plan) ∈ note entries path new) : (key, plan) ∈ entries ∨
      [key] <+: path ∧ ∀ d ∈ plan.acts, d ∈ new ∨ ∃ old, (key, old) ∈ entries ∧ d ∈ old.acts := by
  unfold note at h
  split at h
  · exact .inl h
  · cases path with
    | nil => exact .inl h
    | cons first path =>
      rcases mem_insert h with h | ⟨rfl, hacts⟩
      · exact .inl h
      · exact .inr ⟨by simp, hacts⟩

end Plan

/-- Plans name a field only where something was noted in it, and have for it only acts that were noted in
it. -/
def Noted (notes : List Note) (entries : List (String × Plan)) : Prop :=
  ∀ key plan, (key, plan) ∈ entries → (∃ note ∈ notes, [key] <+: note.path) ∧
    ∀ d ∈ plan.acts, ∃ note ∈ notes, [key] <+: note.path ∧ d ∈ note.acts

theorem Noted.note {notes : List Note} {entries : List (String × Plan)} (h : Noted notes entries) {n : Note}
    (hn : n ∈ notes) : Noted notes (Plan.note entries n.path n.acts) := by
  intro key plan hm
  rcases Plan.mem_note hm with hm | ⟨hpath, hacts⟩
  · exact h key plan hm
  · refine ⟨⟨n, hn, hpath⟩, fun d hd => ?_⟩
    rcases hacts d hd with hd | ⟨old, ho, hd⟩
    · exact ⟨n, hn, hpath, hd⟩
    · exact (h key old ho).2 d hd

theorem Walk.noted_plan (notes : List Note) : Noted notes (Walk.plan notes) := by
  have main : ∀ (ns : List Note) (entries : List (String × Plan)), (∀ n ∈ ns, n ∈ notes) →
      Noted notes entries →
        Noted notes (ns.foldl (fun entries note => Plan.note entries note.path note.acts) entries) := by
    intro ns
    induction ns with
    | nil => exact fun _ _ h => h
    | cons n ns ih =>
      intro entries hns h
      exact ih _ (fun m hm => hns m (List.mem_cons_of_mem _ hm)) (h.note (hns n List.mem_cons_self))
  exact main notes [] (fun _ h => h) fun _ _ h => nomatch h

/-! ## Performing a plan -/

namespace Plan

/-- What holds of fields and is kept when the plan of a field is performed on that field holds in the end,
whether or not an act fails. -/
theorem performAll_induction {plans : List (String × Plan)} {path : String}
    (Inv : List (String × Value) → Prop)
    (hstep : ∀ key plan fields v, (key, plan) ∈ plans → Keyed.get? fields key = some v → Inv fields →
      Inv (Keyed.put fields key (perform (extendPath path key) plan v).1))
    {fields : List (String × Value)} (h : Inv fields) : Inv (performAll path plans fields).1 := by
  induction plans generalizing fields with
  | nil => exact h
  | cons p ps ih =>
    have ih' : ∀ {fields}, Inv fields → Inv (performAll path ps fields).1 :=
      ih fun key plan fields v hm => hstep key plan fields v (List.mem_cons_of_mem _ hm)
    unfold performAll
    split
    · exact ih' h
    · rename_i v hv
      have hput := hstep p.1 p.2 fields v List.mem_cons_self hv h
      rcases hp : perform (extendPath path p.1) p.2 v with ⟨w, failure⟩
      rw [hp] at hput
      cases failure with
      | some f => exact hput
      | none => exact ih' hput

/-- The fields stay, in their order. -/
theorem keys_performAll (path : String) (plans : List (String × Plan)) (fields : List (String × Value)) :
    Keyed.keys (performAll path plans fields).1 = Keyed.keys fields := by
  refine performAll_induction (fun fs => Keyed.keys fs = Keyed.keys fields) ?_ rfl
  intro key plan fs v _ hv h
  rw [Keyed.keys_put_of_mem (Keyed.mem_keys_of_get? hv), h]

/-- A field that no plan names stays. -/
theorem get?_performAll {plans : List (String × Plan)} {k : String} (hk : ∀ plan, (k, plan) ∉ plans)
    (path : String) (fields : List (String × Value)) :
    Keyed.get? (performAll path plans fields).1 k = Keyed.get? fields k := by
  refine performAll_induction (fun fs => Keyed.get? fs k = Keyed.get? fields k) ?_ rfl
  intro key plan fs v hm _ h
  rw [Keyed.get?_put, if_neg, h]
  rintro rfl
  exact hk plan hm

mutual

/-- A text with an underscore that a plan without `notNull` leaves somewhere stood there before. -/
theorem text_at_of_perform {s : String} (hs : '_' ∈ s.toList) : ∀ (plan : Plan), .notNull ∉ plan.acts →
    ∀ (place : String) (v : Value) (path : List String), (perform place plan v).1.At path (.text s) →
      v.At path (.text s)
  | .leaf acts, hacts, place, v, path, h => by
    unfold perform at h
    exact Deferred.text_at_of_actAll hacts hs h
  | .nested entries, hacts, place, .map fields, path, h => by
    unfold perform at h
    cases path with
    | nil => cases h
    | cons key path =>
      exact text_at_of_performAll hs entries key
        (fun plan hm hn => hacts (mem_entryActs.2 ⟨key, plan, hm, hn⟩)) place fields path h
  | .nested _, _, _, .null, _, h | .nested _, _, _, .bool _, _, h | .nested _, _, _, .int _, _, h
  | .nested _, _, _, .float _, _, h | .nested _, _, _, .text _, _, h | .nested _, _, _, .moment _, _, h
  | .nested _, _, _, .upload _, _, h => h
termination_by structural p => p

/-- In fields whose plans are without `notNull`, a text with an underscore that is there when the plans have
been performed stood there before. -/
theorem text_at_of_performAll {s : String} (hs : '_' ∈ s.toList) :
    ∀ (plans : List (String × Plan)) (key : String), (∀ plan, (key, plan) ∈ plans → .notNull ∉ plan.acts) →
      ∀ (place : String) (fields : List (String × Value)) (path : List String),
        (Value.map (performAll place plans fields).1).At (key :: path) (.text s) →
          (Value.map fields).At (key :: path) (.text s)
  | [], key, hacts, place, fields, path, h => h
  | (k, plan) :: rest, key, hacts, place, fields, path, h => by
    have hrest := text_at_of_performAll hs rest key fun plan hm => hacts plan (List.mem_cons_of_mem _ hm)
    unfold performAll at h
    split at h
    · exact hrest place fields path h
    · rename_i v hv
      rcases hp : perform (extendPath place k) plan v with ⟨w, failure⟩
      have hput : (Value.map (Keyed.put fields k w)).At (key :: path) (.text s) := by
        rw [hp] at h
        cases failure with
        | some f => exact h
        | none => exact hrest place _ path h
      obtain ⟨u, hu, hat⟩ := Value.at_cons.1 hput
      -- Either this plan left the text in the field, or it stands in a field that the plan did not write.
      rcases Keyed.mem_put hu with ⟨rfl, rfl⟩ | hu
      · refine .entry (Keyed.mem_of_get? hv) ?_
        exact text_at_of_perform hs plan (hacts plan List.mem_cons_self) _ v path (by rw [hp]; exact hat)
      · exact .entry hu hat
termination_by structural ps => ps

end

end Plan

end FieldRules
