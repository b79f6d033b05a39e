import FieldRules.Proofs.Dates
/-!
# Days counted

Days are numbered in the order of the calendar (`Date.dayNumber_lt_iff`), and the date of a number is the one day that
has it (`Date.ofDayNumber?_eq_some_iff`). Both rest on the starts of years and months: a day lies between the start of
its own year and that of the next one, and so do the months in a year.
-/

namespace FieldRules

theorem isLeapYear_iff {y : Int} : isLeapYear y = true ↔ y % 4 = 0 ∧ (y % 100 ≠ 0 ∨ y % 400 = 0) := by
  simp [isLeapYear]

def daysInYear (y : Int) : Nat := if isLeapYear y then 366 else 365

namespace Date

/-! ## The starts of years and months -/

theorem daysBeforeYear_succ (y : Int) : daysBeforeYear (y + 1) = daysBeforeYear y + daysInYear y := by
  have hfourth : y / 4 = (y - 1) / 4 + if y % 4 = 0 then 1 else 0 := by split <;> omega
  have hcentury : y / 100 = (y - 1) / 100 + if y % 100 = 0 then 1 else 0 := by split <;> omega
  have hcycle : y / 400 = (y - 1) / 400 + if y % 400 = 0 then 1 else 0 := by split <;> omega
  have hdivides : (y % 400 = 0 → y % 100 = 0) ∧ (y % 100 = 0 → y % 4 = 0) := by omega
  have hdays : (daysInYear y : Int) =
      365 + (if y % 4 = 0 then 1 else 0) - (if y % 100 = 0 then 1 else 0) + if y % 400 = 0 then 1 else 0 := by
    unfold daysInYear
    split_ifs <;> simp_all [isLeapYear_iff]
  simp only [daysBeforeYear, Int.add_sub_cancel, hfourth, hcentury, hcycle, hdays]
  ring

theorem daysBeforeYear_mono {y z : Int} (h : y ≤ z) : daysBeforeYear y ≤ daysBeforeYear z := by
  simp only [daysBeforeYear]
  omega

theorem daysBeforeMonth_succ (y : Int) {m : Nat} (hm : 1 ≤ m) :
    daysBeforeMonth y (m + 1) = daysBeforeMonth y m + daysInMonth y m := by
  obtain ⟨m, rfl⟩ := Nat.exists_eq_add_of_le' hm
  rfl

theorem daysBeforeMonth_mono (y : Int) {m n : Nat} (hm : 1 ≤ m) (h : m ≤ n) :
    daysBeforeMonth y m ≤ daysBeforeMonth y n := by
  induction n, h using Nat.le_induction with
  | base => exact le_rfl
  | succ n h ih =>
    rw [daysBeforeMonth_succ y (hm.trans h)]
    exact ih.trans (Nat.le_add_right _ _)

/-- The twelve months make the year. -/
theorem daysBeforeMonth_thirteen (y : Int) : daysBeforeMonth y 13 = daysInYear y := by
  unfold daysInYear
  by_cases h : isLeapYear y = true <;> simp [daysBeforeMonth, daysInMonth, h]

/-! ## The place of a day -/

/-- The days from 0001-01-01 to a day. -/
def position (y : Int) (m d : Nat) : Int := daysBeforeYear y + daysBeforeMonth y m + (d - 1 : Nat)

/-- The year has such a day. -/
structure InYear (y : Int) (m d : Nat) : Prop where
  month : 1 ≤ m ∧ m ≤ 12
  day : 1 ≤ d ∧ d ≤ daysInMonth y m

/-- The order of the calendar: by years, then by months, then by days. -/
def Precedes (y : Int) (m d : Nat) (z : Int) (n e : Nat) : Prop := y < z ∨ y = z ∧ (m < n ∨ m = n ∧ d < e)

variable {y z : Int} {m n d e : Nat}

theorem InYear.lt_daysInYear (h : InYear y m d) : daysBeforeMonth y m + (d - 1) < daysInYear y := by
  obtain ⟨⟨hfirst, hlast⟩, hday⟩ := h
  have hnext := daysBeforeMonth_succ y hfirst
  have hyear := daysBeforeMonth_mono y (Nat.le_add_left 1 m) (Nat.succ_le_succ hlast)
  rw [daysBeforeMonth_thirteen] at hyear
  omega

theorem position_lt (h : InYear y m d) (hprecedes : Precedes y m d z n e) : position y m d < position z n e := by
  have hday := h.day
  unfold position
  rcases hprecedes with hyear | ⟨rfl, hmonth | ⟨rfl, hearlier⟩⟩
  · have hnext := daysBeforeYear_mono (Int.add_one_le_of_lt hyear)
    have hin := h.lt_daysInYear
    rw [daysBeforeYear_succ] at hnext
    omega
  · have hnext := daysBeforeMonth_mono y (Nat.le_add_left 1 m) hmonth
    rw [daysBeforeMonth_succ y h.month.1] at hnext
    omega
  · omega

theorem position_lt_iff (h : InYear y m d) (h' : InYear z n e) :
    position y m d < position z n e ↔ Precedes y m d z n e := by
  refine ⟨fun hlt => ?_, position_lt h⟩
  by_contra hnot
  -- Of two different days one is before the other.
  have hcases : (y = z ∧ m = n ∧ d = e) ∨ Precedes z n e y m d := by
    unfold Precedes at hnot ⊢
    omega
  rcases hcases with ⟨rfl, rfl, rfl⟩ | hlater
  · exact lt_irrefl _ hlt
  · exact lt_asymm hlt (position_lt h' hlater)

/-- A place is taken by one day. -/
theorem position_inj (h : InYear y m d) (h' : InYear z n e) (heq : position y m d = position z n e) :
    y = z ∧ m = n ∧ d = e := by
  have hup := (position_lt_iff h h').not.1 heq.not_lt
  have hdown := (position_lt_iff h' h).not.1 heq.symm.not_lt
  unfold Precedes at hup hdown
  omega

/-! ## The number of a date -/

theorem inYear (date : Date) : InYear date.year date.month date.day := ⟨date.month_range, date.day_range⟩

theorem dayNumber_eq (date : Date) : date.dayNumber = position date.year date.month date.day - 719162 := rfl

/-- The order of dates in the calendar. -/
def Before (a b : Date) : Prop := Precedes a.year a.month a.day b.year b.month b.day

theorem dayNumber_lt_iff {a b : Date} : a.dayNumber < b.dayNumber ↔ a.Before b := by
  rw [Before, ← position_lt_iff a.inYear b.inYear, dayNumber_eq, dayNumber_eq]
  omega

theorem of?_eq_some_iff {date : Date} : of? y m d = some date ↔ date.year = y ∧ date.month = m ∧ date.day = d := by
  constructor
  · intro h
    unfold of? at h
    split at h
    · split at h
      · split at h
        · cases h
          exact ⟨rfl, rfl, rfl⟩
        · cases h
      · cases h
    · cases h
  · rintro ⟨rfl, rfl, rfl⟩
    simp [of?, date.year_range, date.month_range, date.day_range]

/-! ## The date of a number -/

/-- The year that a place is in, found beside its estimate by the mean length of a year. -/
def yearAt (k : Int) : Int :=
  let guess := k * 400 / 146097 + 1
  if daysBeforeYear (guess + 1) ≤ k then guess + 1 else if daysBeforeYear guess ≤ k then guess else guess - 1

theorem yearAt_spec (k : Int) : daysBeforeYear (yearAt k) ≤ k ∧ k < daysBeforeYear (yearAt k + 1) := by
  unfold yearAt
  dsimp only
  split
  · rename_i hafter
    refine ⟨hafter, ?_⟩
    simp only [daysBeforeYear]
    omega
  · rename_i hafter
    split
    · rename_i hfrom
      exact ⟨hfrom, not_le.1 hafter⟩
    · rename_i hfrom
      rw [Int.sub_add_cancel]
      refine ⟨?_, not_le.1 hfrom⟩
      simp only [daysBeforeYear]
      omega

/-- The search goes from month to month, and the days before the month and those in it stay the same together. -/
theorem monthAndDay_spec {months k : Nat} (hm : 1 ≤ m)
    (h : daysBeforeMonth y m + k < daysBeforeMonth y (m + months)) :
    ∃ n e, monthAndDay y k m months = (n, e) ∧ m ≤ n ∧ n < m + months ∧ 1 ≤ e ∧ e ≤ daysInMonth y n ∧
      daysBeforeMonth y n + (e - 1) = daysBeforeMonth y m + k := by
  induction months generalizing k m with
  | zero =>
    rw [Nat.add_zero] at h
    omega
  | succ months ih =>
    unfold monthAndDay
    split
    · rename_i hin
      exact ⟨m, k + 1, rfl, le_rfl, by omega, by omega, by omega, by omega⟩
    · rename_i hbehind
      have hnext := daysBeforeMonth_succ y hm
      have hrest : daysBeforeMonth y (m + 1) + (k - daysInMonth y m) < daysBeforeMonth y (m + 1 + months) := by
        rw [Nat.add_right_comm, Nat.add_assoc]
        omega
      obtain ⟨n, e, hfound, hfrom, hto, hone, hday, hsum⟩ := ih (Nat.le_add_left 1 m) hrest
      exact ⟨n, e, hfound, by omega, by omega, hone, hday, by omega⟩

/-- The parts that are found make the day of that number, whether its year is in the range or not. -/
theorem ofDayNumber?_eq (k : Int) :
    ∃ y m d, ofDayNumber? k = of? y m d ∧ InYear y m d ∧ position y m d = k + 719162 := by
  obtain ⟨y, hy⟩ : ∃ y, yearAt (k + 719162) = y := ⟨_, rfl⟩
  have hparts : ofDayNumber? k = of? y (monthAndDay y (k + 719162 - daysBeforeYear y).toNat 1 12).1
      (monthAndDay y (k + 719162 - daysBeforeYear y).toNat 1 12).2 := by
    rw [← hy]
    rfl
  obtain ⟨hfrom, hto⟩ := yearAt_spec (k + 719162)
  rw [hy] at hfrom hto
  rw [daysBeforeYear_succ] at hto
  have hzero : daysBeforeMonth y 1 = 0 := by rw [daysBeforeMonth]
  have hin : daysBeforeMonth y 1 + (k + 719162 - daysBeforeYear y).toNat < daysBeforeMonth y (1 + 12) := by
    rw [daysBeforeMonth_thirteen]
    omega
  obtain ⟨m, d, hfound, hfirst, hlast, hday, hlastDay, hsum⟩ := monthAndDay_spec le_rfl hin
  refine ⟨y, m, d, ?_, ⟨⟨hfirst, by omega⟩, hday, hlastDay⟩, ?_⟩
  · rw [hparts, hfound]
  · unfold position
    omega

theorem ofDayNumber?_eq_some_iff {k : Int} {date : Date} : ofDayNumber? k = some date ↔ date.dayNumber = k := by
  obtain ⟨y, m, d, hof, hin, hposition⟩ := ofDayNumber?_eq k
  rw [hof, of?_eq_some_iff, dayNumber_eq]
  constructor
  · rintro ⟨rfl, rfl, rfl⟩
    omega
  · intro h
    exact position_inj date.inYear hin (by omega)

/-- The numbers of the days in the range of years. -/
theorem exists_dayNumber_eq {k : Int} (hfirst : daysBeforeYear (-262143) ≤ k + 719162)
    (hlast : k + 719162 < daysBeforeYear 262143) : ∃ date : Date, date.dayNumber = k := by
  obtain ⟨y, m, d, -, hin, hposition⟩ := ofDayNumber?_eq k
  have hday := hin.lt_daysInYear
  have hyear : -262143 ≤ y ∧ y ≤ 262142 := by
    unfold position at hposition
    constructor
    · by_contra hbefore
      have hmono := daysBeforeYear_mono (y := y + 1) (z := -262143) (by omega)
      rw [daysBeforeYear_succ] at hmono
      omega
    · by_contra hafter
      have hmono := daysBeforeYear_mono (y := 262143) (z := y) (by omega)
      omega
  refine ⟨⟨y, m, d, hyear, hin.month, hin.day⟩, ?_⟩
  rw [dayNumber_eq, hposition]
  omega

end Date

end FieldRules
