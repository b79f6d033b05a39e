import FieldRules.Engine.Walk
/-!
# Steps up to the first failure

A walk is a row of steps, leaf after leaf and field after field, and the first failure ends it. `sweep` is such a
row with nothing but the calls and the notes of its steps. It ends well just if every step does, and then it has
made the calls of all (`sweep_eq_of_ok`); and the failure of a step that fails first ends it, with the calls made
up to there (`sweep_eq_of_error`, `exists_first_of_sweep_error`).
-/

namespace FieldRules.Walk

/-- How a part of a walk ended: its notes, or the failure that ended it. -/
abbrev Ending : Type := Except Failure (List Note)

/-- The notes of a part that ended well. -/
def Ending.notes : Ending → List Note
  | .ok notes => notes
  | .error _ => []

/-- The calls of a part of a walk and how it ended, without what became of the values. -/
def ending {α : Type} (w : Traced (Walked α)) : Traced Ending := ⟨w.calls, w.value.outcome⟩

section
variable {α : Type} (step : α → Traced Ending)

/-- Takes steps one after another up to the first that fails. -/
def sweep : List α → Traced Ending
  | [] => .silent (.ok [])
  | a :: as => do
    match ← step a with
    | .error f => return .error f
    | .ok notes => return (← sweep as).map (notes ++ ·)

/-- The step ends without a failure. -/
def Passes (a : α) : Prop := ∃ notes, (step a).value = .ok notes

variable {step}

theorem sweep_cons_of_ok {a : α} {notes : List Note} (h : (step a).value = .ok notes) (as : List α) :
    sweep step (a :: as) =
      ⟨(step a).calls ++ (sweep step as).calls, (sweep step as).value.map (notes ++ ·)⟩ := by
  rw [sweep]
  simp only [bind, pure, h, Traced.silent, List.append_nil]

theorem sweep_cons_of_error {a : α} {f : Failure} (h : (step a).value = .error f) (as : List α) :
    sweep step (a :: as) = ⟨(step a).calls, .error f⟩ := by
  rw [sweep]
  simp only [bind, pure, h, Traced.silent, List.append_nil]

theorem sweep_singleton (a : α) : sweep step [a] = step a := by
  cases ha : (step a).value with
  | error f => rw [sweep_cons_of_error ha, ← ha]
  | ok notes =>
    rw [sweep_cons_of_ok ha]
    simp [sweep, Traced.silent, Except.map, ← ha]

theorem sweep_congr {step' : α → Traced Ending} {as : List α} (h : ∀ a ∈ as, step a = step' a) :
    sweep step as = sweep step' as := by
  induction as with
  | nil => rfl
  | cons a as ih => rw [sweep, sweep, h a List.mem_cons_self, ih fun b hb => h b (List.mem_cons_of_mem _ hb)]

/-- Where every step ends well, so does the row, and it has the calls and the notes of all. -/
theorem sweep_eq_of_ok {as : List α} (h : ∀ a ∈ as, Passes step a) : sweep step as =
    ⟨as.flatMap fun a => (step a).calls, .ok (as.flatMap fun a => Ending.notes (step a).value)⟩ := by
  induction as with
  | nil => rfl
  | cons a as ih =>
    obtain ⟨notes, ha⟩ := h a List.mem_cons_self
    rw [sweep_cons_of_ok ha, ih fun b hb => h b (List.mem_cons_of_mem _ hb)]
    simp [ha, Ending.notes, Except.map]

/-- The first step that fails ends the row: the steps after it make no call. -/
theorem sweep_eq_of_error {before after : List α} {a : α} {f : Failure} (h : ∀ b ∈ before, Passes step b)
    (ha : (step a).value = .error f) :
    sweep step (before ++ a :: after) = ⟨(before ++ [a]).flatMap fun b => (step b).calls, .error f⟩ := by
  induction before with
  | nil => simp [sweep_cons_of_error ha]
  | cons b bs ih =>
    obtain ⟨notes, hb⟩ := h b List.mem_cons_self
    rw [List.cons_append, sweep_cons_of_ok hb, ih fun c hc => h c (List.mem_cons_of_mem _ hc)]
    simp [Except.map]

/-- A row ends well, or there is a first step that fails. -/
theorem passes_or_first_error (as : List α) : (∀ a ∈ as, Passes step a) ∨
    ∃ before a after f, as = before ++ a :: after ∧ (∀ b ∈ before, Passes step b) ∧ (step a).value = .error f := by
  induction as with
  | nil => exact .inl (List.forall_mem_nil _)
  | cons a as ih =>
    cases ha : (step a).value with
    | error f => exact .inr ⟨[], a, as, f, rfl, List.forall_mem_nil _, ha⟩
    | ok notes =>
      rcases ih with hall | ⟨before, b, after, f, rfl, hbefore, hb⟩
      · exact .inl (List.forall_mem_cons.2 ⟨⟨notes, ha⟩, hall⟩)
      · exact .inr ⟨a :: before, b, after, f, rfl, List.forall_mem_cons.2 ⟨⟨notes, ha⟩, hbefore⟩, hb⟩

/-- A row ends well just if every step does. -/
theorem sweep_ok_iff {as : List α} : (∃ notes, (sweep step as).value = .ok notes) ↔ ∀ a ∈ as, Passes step a := by
  constructor
  · rintro ⟨notes, h⟩
    rcases passes_or_first_error as with hall | ⟨before, a, after, f, rfl, hbefore, ha⟩
    · exact hall
    · rw [sweep_eq_of_error hbefore ha] at h
      cases h
  · exact fun h => ⟨_, congrArg Traced.value (sweep_eq_of_ok h)⟩

/-- A row that fails does so at the first step that fails. -/
theorem exists_first_of_sweep_error {as : List α} {f : Failure} (h : (sweep step as).value = .error f) :
    ∃ before a after, as = before ++ a :: after ∧ (∀ b ∈ before, Passes step b) ∧ (step a).value = .error f := by
  rcases passes_or_first_error as with hall | ⟨before, a, after, g, rfl, hbefore, ha⟩
  · rw [sweep_eq_of_ok hall] at h
    cases h
  · rw [sweep_eq_of_error hbefore ha] at h
    cases h
    exact ⟨before, a, after, rfl, hbefore, ha⟩

theorem sweep_append_of_ok {as : List α} {notes : List Note} (h : (sweep step as).value = .ok notes)
    (bs : List α) : sweep step (as ++ bs) =
      ⟨(sweep step as).calls ++ (sweep step bs).calls, (sweep step bs).value.map (notes ++ ·)⟩ := by
  have hall := sweep_ok_iff.1 ⟨notes, h⟩
  have has := sweep_eq_of_ok hall
  rw [has] at h ⊢
  cases h
  rcases passes_or_first_error bs with hbs | ⟨before, b, after, f, rfl, hbefore, hb⟩
  · rw [sweep_eq_of_ok (List.forall_mem_append.2 ⟨hall, hbs⟩), sweep_eq_of_ok hbs]
    simp [Except.map]
  · rw [← List.append_assoc, sweep_eq_of_error (List.forall_mem_append.2 ⟨hall, hbefore⟩) hb,
      sweep_eq_of_error hbefore hb]
    simp [Except.map]

theorem sweep_append_of_error {as : List α} {f : Failure} (h : (sweep step as).value = .error f) (bs : List α) :
    sweep step (as ++ bs) = ⟨(sweep step as).calls, .error f⟩ := by
  obtain ⟨before, a, after, rfl, hbefore, ha⟩ := exists_first_of_sweep_error h
  rw [List.append_assoc, List.cons_append, sweep_eq_of_error hbefore ha, sweep_eq_of_error hbefore ha]

end

end FieldRules.Walk
