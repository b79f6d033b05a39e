import FieldRules.Check.Convert
import FieldRules.Proofs.Dates
/-!
# Conversions of what was accepted

A conversion reads moments in more shapes than the test of them, and dates and seconds besides. But a text has one shape
at most (`Moment.shape_unique`), and what is a date is no moment, so that the conversions find what the tests found
(`converted_as_accepted`).
-/

namespace FieldRules

open Text

namespace Moment

variable {s : String} {m n : Moment}

/-- The signs of a text tell in which shape it writes a moment: what stands between date and time, and the colons. -/
theorem signs_of_parseAs? {shape : Shape} (hshape : shape ∈ comparableShapes) (h : parseAs? shape s = some m) :
    (∀ c ∈ ['T', ' '], c ∈ s.toList ↔ c = shape.separator) ∧
      s.toList.count ':' = if shape.withSeconds then 2 else 1 := by
  simp only [parseAs?, Option.bind_eq_bind, Option.bind_eq_some_iff] at h
  obtain ⟨⟨date, clock⟩, hcut, d, hdate, c, hclock, -⟩ := h
  have hs : s.toList = date.toList ++ shape.separator :: clock.toList := eq_append_of_cutOnce hcut
  have htext : d.text = date := Date.text_of_parse hdate
  obtain ⟨hdateSigns, -⟩ := htext ▸ written_date d
  obtain ⟨hclockSigns, hcount⟩ := written_clock hclock
  have hseparator : shape.separator ≠ ':' := by
    have hall : ∀ shape ∈ comparableShapes, shape.separator ≠ ':' := by decide
    exact hall shape hshape
  constructor
  · -- Neither a date nor a time has a `T` or a blank of its own.
    intro b hb
    have hdateAbsent : b ∉ date.toList := hdateSigns.absent ['T', ' '] (by simp [markers]) b hb
    have hclockAbsent : b ∉ clock.toList := hclockSigns.absent ['T', ' '] (by simp [markers]) b hb
    rw [hs, List.mem_append, List.mem_cons]
    simp only [hdateAbsent, hclockAbsent, false_or, or_false]
  · have hdateAbsent : ':' ∉ date.toList := hdateSigns.absent [':'] (by simp [markers]) ':' (by decide)
    rw [hs, List.count_append, List.count_eq_zero.2 hdateAbsent, List.count_cons_of_ne hseparator, Nat.zero_add, hcount]

/-- A text writes a moment in one shape at most. -/
theorem shape_unique {a b : Shape} (ha : a ∈ comparableShapes) (hb : b ∈ comparableShapes) (hm : parseAs? a s = some m)
    (hn : parseAs? b s = some n) : a = b := by
  obtain ⟨hbetween, hcount⟩ := signs_of_parseAs? ha hm
  obtain ⟨hbetween', hcount'⟩ := signs_of_parseAs? hb hn
  have hseparator : a.separator = b.separator := by
    have hsigns : ∀ shape ∈ comparableShapes, shape.separator ∈ ['T', ' '] := by decide
    have hin := hsigns a ha
    exact (hbetween' _ hin).1 ((hbetween _ hin).2 rfl)
  have hseconds : a.withSeconds = b.withSeconds := by
    rw [hcount] at hcount'
    revert hcount'
    cases a.withSeconds <;> cases b.withSeconds <;> simp
  cases a
  cases b
  cases hseparator
  cases hseconds
  rfl

/-- In whatever order shapes are tried, the one that fits is found. -/
theorem parse?_eq_some_iff {shapes : List Shape} (hshapes : shapes ⊆ comparableShapes) :
    parse? shapes s = some m ↔ ∃ shape ∈ shapes, parseAs? shape s = some m := by
  constructor
  · exact List.exists_of_findSome?_eq_some
  · rintro ⟨shape, hshape, hm⟩
    have hfound : (parse? shapes s).isSome = true :=
      List.findSome?_isSome_iff.2 ⟨shape, hshape, by rw [hm]; rfl⟩
    obtain ⟨n, hn⟩ := Option.isSome_iff_exists.1 hfound
    obtain ⟨other, hother, hparse⟩ := List.exists_of_findSome?_eq_some hn
    rw [shape_unique (hshapes hshape) (hshapes hother) hm hparse, hparse] at hm
    rw [hn, hm]

/-- More shapes change nothing about a moment that is found. -/
theorem parse?_mono {shapes more : List Shape} (hmore : shapes ⊆ more) (hall : more ⊆ comparableShapes)
    (h : parse? shapes s = some m) : parse? more s = some m := by
  obtain ⟨shape, hshape, hm⟩ := (parse?_eq_some_iff fun _ hin => hall (hmore hin)).1 h
  exact (parse?_eq_some_iff hall).2 ⟨shape, hmore hshape, hm⟩

end Moment

/-! ## Reading for a conversion -/

theorem readMoment?_of_moment {s : String} {m : Moment} (h : Moment.parse? Moment.fieldShapes s = some m) :
    readMoment? s = some m := by
  rw [readMoment?, Moment.parse?_mono (by decide) (List.Subset.refl _) h, Option.some_or]

/-- A date has no colon, so it is no moment. -/
theorem readMoment?_of_date {s : String} {d : Date} (h : Date.parse? s = some d) :
    readMoment? s = some (.ofDate d) := by
  have hwritten : Reading.date.Written s.toList := Date.text_of_parse h ▸ written_date d
  have hnone : Moment.parse? Moment.comparableShapes s = none := by
    rw [Option.eq_none_iff_forall_ne_some]
    intro m hm
    have hkinds := (Reading.ofSigns_eq hwritten).symm.trans (Reading.ofSigns_eq (written_moment hm))
    cases hkinds
  rw [readMoment?, hnone, Option.none_or, h, Option.map_some, Option.some_or]

theorem Target.convert_text {target : Target} (htarget : target ≠ .string) {v : String} (hpresent : isBlankText v = false)
    {w : Value} (h : target.ofText? (trim v) = some w) : target.convert (.text v) = .ok w := by
  have hblank : (Value.text v).isBlank = false := hpresent
  simp only [convert, hblank, Bool.false_eq_true, if_false, Value.scalarText?, Option.getD_some]
  cases target with
  | string => exact absurd rfl htarget
  | _ => simp only [convertScalar, h]

/-- What a test reads is converted, if the conversion reads it as well and as the same. -/
theorem ReadsTexts.accepted_iff_converted {α : Type} {test : Test} {read : String → Option α} {fault : Fault}
    (h : ReadsTexts test read fault) (hplaceholder : (read (trim emptyPlaceholder)).isSome = false) {target : Target}
    (htarget : target ≠ .string) {value : α → Value}
    (hvalue : ∀ {s x}, read s = some x → target.ofText? s = some (value x)) (scope : Scope) (values : List String)
    (v : String) : (Evaluation.mk scope { test, values } (.text v)).run.value = .ok .accepted ↔
      ∃ x, read (trim v) = some x ∧ target.convert (.text v) = .ok (value x) := by
  rw [h.accepted_iff, Option.isSome_iff_exists]
  refine exists_congr fun x => ⟨fun hx => ⟨hx, ?_⟩, And.left⟩
  have hread : (read (trim v)).isSome = true := by rw [hx]; rfl
  have hpresent : isBlankText v = false := by
    rw [Bool.eq_false_iff]
    intro hblank
    simp only [isBlankText, Bool.or_eq_true, String.isEmpty_iff, beq_iff_eq] at hblank
    rcases hblank with (hempty | rfl) | rfl
    · rw [hempty] at hread
      exact Bool.eq_false_iff.1 h.empty hread
    · exact Bool.eq_false_iff.1 h.mark hread
    · exact Bool.eq_false_iff.1 hplaceholder hread
  exact Target.convert_text htarget hpresent (hvalue hx)

theorem readsTexts_dateTime : ReadsTexts .dateTime (Moment.parse? Moment.fieldShapes) .notMoment :=
  ⟨rfl, fun _ _ _ => rfl, by decide, by decide⟩

theorem parseBool_trim (s : String) : parseBool (trim s) = parseBool s := by
  rw [parseBool, trim_trim, parseBool]

theorem readsTexts_boolean : ReadsTexts .boolean parseBool .notBoolean where
  judgesEmpty := rfl
  judge _ _ v := by
    have hreads : Check.reads parseBool .notBoolean (.text v) = accept (parseBool (trim v)).isSome .notBoolean := rfl
    rw [hreads, parseBool_trim]
    rfl
  empty := by decide
  mark := by decide

/-- What the tests of dates, of moments and of booleans accept is converted, and the conversion finds the moment or the
boolean that the test has found. A date is converted to its midnight. -/
theorem converted_as_accepted (scope : Scope) (values : List String) (v : String) :
    ((Evaluation.mk scope (dateTest values) (.text v)).run.value = .ok .accepted ↔
      ∃ d, Date.parse? (trim v) = some d ∧ Target.dateTime.convert (.text v) = .ok (.moment ⟨d, .midnight⟩)) ∧
    ((Evaluation.mk scope { test := .dateTime, values } (.text v)).run.value = .ok .accepted ↔
      ∃ m, Moment.parse? Moment.fieldShapes (trim v) = some m ∧
        Target.dateTime.convert (.text v) = .ok (.moment m)) ∧
    ((Evaluation.mk scope { test := .boolean, values } (.text v)).run.value = .ok .accepted ↔
      ∃ b, parseBool v = some b ∧ Target.boolean.convert (.text v) = .ok (.bool b)) := by
  refine ⟨?_, ?_, ?_⟩
  · refine readsTexts_date.accepted_iff_converted (by decide) (by decide) (fun h => ?_) scope values v
    rw [Target.ofText?, readMoment?_of_date h]
    rfl
  · refine readsTexts_dateTime.accepted_iff_converted (by decide) (by decide) (fun h => ?_) scope values v
    rw [Target.ofText?, readMoment?_of_moment h]
    rfl
  · rw [← parseBool_trim]
    refine readsTexts_boolean.accepted_iff_converted (by decide) (by decide) (fun h => ?_) scope values v
    rw [Target.ofText?, h]
    rfl

end FieldRules
