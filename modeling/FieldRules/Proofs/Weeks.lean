import FieldRules.Proofs.DayNumbers
import FieldRules.Proofs.WrittenOrder
/-!
# Weeks of ISO 8601

The first week of a year is the one with its first Thursday, and so the number of a week counts the Thursdays of the
year. A text is read as a week just if the year has as many Thursdays, and then as the Monday of that week; and the
Mondays are in the order of the texts, over the ends of years too (`weeks_read`).
-/

namespace FieldRules

open Text

namespace Date

/-- The days of the year before a date. -/
def ordinal (d : Date) : Nat := daysBeforeMonth d.year d.month + (d.day - 1)

theorem ordinal_lt (d : Date) : d.ordinal < daysInYear d.year := d.inYear.lt_daysInYear

theorem dayNumber_eq_ordinal (d : Date) : d.dayNumber = daysBeforeYear d.year - 719162 + d.ordinal := by
  rw [dayNumber_eq, position, ordinal]
  omega

theorem year_eq {d : Date} {y : Int} (hfrom : daysBeforeYear y ≤ d.dayNumber + 719162)
    (hto : d.dayNumber + 719162 < daysBeforeYear (y + 1)) : d.year = y := by
  have hnumber := d.dayNumber_eq_ordinal
  have hlast := d.ordinal_lt
  have hnext := daysBeforeYear_succ d.year
  rcases lt_trichotomy d.year y with hbefore | hsame | hafter
  · have := daysBeforeYear_mono (Int.add_one_le_of_lt hbefore)
    omega
  · exact hsame
  · have := daysBeforeYear_mono (Int.add_one_le_of_lt hafter)
    omega

/-- A Monday is the first day of a week of a year if its Thursday is the Thursday of that number in the year. -/
structure IsWeek (y : Int) (week : Nat) (monday : Date) : Prop where
  weekday : weekday monday.dayNumber = 0
  thursday : ∃ t : Date, t.dayNumber = monday.dayNumber + 3 ∧ t.year = y ∧ t.ordinal / 7 + 1 = week

end Date

namespace Period

open Date

/-- The weeks of a year: 53 if it begins on a Thursday, or on a Wednesday before 366 days. -/
def isoWeeks (y : Int) : Nat :=
  let first := weekday (daysBeforeYear y - 719162)
  if first = 3 ∨ first = 2 ∧ isLeapYear y = true then 53 else 52

/-! ## The first Monday -/

theorem firstMonday_spec (y : Nat) :
    (firstMonday y + 3) % 7 = 0 ∧ daysBeforeYear y - 719162 - 3 ≤ firstMonday y ∧
      firstMonday y ≤ daysBeforeYear y - 719162 + 3 := by
  simp only [firstMonday, weekday]
  omega

theorem firstMonday_succ (y : Nat) : firstMonday (y + 1) = firstMonday y + 7 * weeksIn y := by
  have hfirst := firstMonday_spec y
  have hnext := firstMonday_spec (y + 1)
  unfold weeksIn
  omega

theorem weeksIn_eq (y : Nat) : weeksIn y = isoWeeks y := by
  have hfirst := firstMonday_spec y
  have hnext := firstMonday_spec (y + 1)
  have hyear := daysBeforeYear_succ y
  have hweeks := firstMonday_succ y
  rw [Nat.cast_succ, hyear] at hnext
  unfold isoWeeks weekday
  unfold daysInYear at hnext
  by_cases hleap : isLeapYear y = true
  · simp only [hleap, if_true, and_true] at hnext ⊢
    split <;> omega
  · simp only [hleap, Bool.false_eq_true, if_false, and_false, or_false] at hnext ⊢
    split <;> omega

theorem firstMonday_mono {y z : Nat} (h : y ≤ z) : firstMonday y ≤ firstMonday z := by
  induction z, h using Nat.le_induction with
  | base => exact le_rfl
  | succ z h ih =>
    have hweeks := firstMonday_succ z
    have hpos : 0 ≤ weeksIn z := weeksIn_eq z ▸ Int.natCast_nonneg _
    omega

/-- Weeks follow each other in their order, also from one year to the next. -/
theorem monday_lt_iff {y z w u : Nat} (hw : 1 ≤ w ∧ (w : Int) ≤ weeksIn y) (hu : 1 ≤ u ∧ (u : Int) ≤ weeksIn z) :
    firstMonday y + 7 * (w - 1 : Nat) < firstMonday z + 7 * (u - 1 : Nat) ↔ y < z ∨ y = z ∧ w < u := by
  have hnext := firstMonday_succ y
  have hnext' := firstMonday_succ z
  -- All weeks of a year begin before the first Monday of the next one.
  rcases Nat.lt_trichotomy y z with hbefore | rfl | hafter
  · have hstart : firstMonday (y + 1) ≤ firstMonday z := firstMonday_mono hbefore
    omega
  · omega
  · have hstart : firstMonday (z + 1) ≤ firstMonday y := firstMonday_mono hafter
    omega

/-- The Monday of a week by its Thursday is the one that so many weeks lead to from the first Monday. -/
theorem isWeek_iff {y w : Nat} {m : Date} (hy : y ≤ 9999) : IsWeek y w m ↔
    (1 ≤ w ∧ (w : Int) ≤ weeksIn y) ∧ m.dayNumber = firstMonday y + 7 * (w - 1 : Nat) := by
  have hfirst := firstMonday_spec y
  have hnext := firstMonday_spec (y + 1)
  have hweeks := firstMonday_succ y
  have hyear := daysBeforeYear_succ y
  rw [Nat.cast_succ] at hnext
  constructor
  · rintro ⟨hmonday, t, hthursday, hsame, hcount⟩
    have hnumber := t.dayNumber_eq_ordinal
    have hin := t.ordinal_lt
    rw [hsame] at hnumber hin
    unfold weekday at hmonday
    omega
  · rintro ⟨⟨hone, hlast⟩, hm⟩
    -- The first Monday is at most three days before the year, so the Thursday of each week is in it.
    have hfrom : daysBeforeYear y ≤ m.dayNumber + 3 + 719162 := by omega
    have hto : m.dayNumber + 3 + 719162 < daysBeforeYear (y + 1) := by omega
    have hlow := daysBeforeYear_mono (y := -262143) (z := y) (by omega)
    have hhigh := daysBeforeYear_mono (y := y + 1) (z := 262143) (by omega)
    obtain ⟨t, ht⟩ := exists_dayNumber_eq (hlow.trans hfrom) (hto.trans_le hhigh)
    have hsame : t.year = y := Date.year_eq (by omega) (by omega)
    have hnumber := t.dayNumber_eq_ordinal
    rw [hsame] at hnumber
    refine ⟨?_, t, ht, hsame, ?_⟩
    · unfold weekday
      omega
    · omega

/-! ## Texts of weeks -/

/-- A text `YYYY-Www` in ASCII digits. -/
def IsWeekText (year week : Nat) (s : String) : Prop :=
  ∃ ys ws : List Char, (∀ c ∈ ys, isAsciiDigit c = true) ∧ ys.length = 4 ∧ digitsValue 0 ys = year ∧
    (∀ c ∈ ws, isAsciiDigit c = true) ∧ ws.length = 2 ∧ digitsValue 0 ws = week ∧
    s.toList = ys ++ '-' :: 'W' :: ws

theorem digitsOf?_eq_some_iff {n k : Nat} {cs : List Char} (hn : 0 < n) :
    digitsOf? n cs = some k ↔ (∀ c ∈ cs, isAsciiDigit c = true) ∧ cs.length = n ∧ digitsValue 0 cs = k := by
  unfold digitsOf?
  constructor
  · intro h
    split at h
    · rename_i hlength
      have hdigits := isAsciiDigit_of_digits? h
      rw [digits?_eq_some (List.ne_nil_of_length_pos (hlength ▸ hn)) hdigits] at h
      exact ⟨hdigits, hlength, Option.some.inj h⟩
    · cases h
  · rintro ⟨hdigits, hlength, rfl⟩
    rw [if_pos hlength, digits?_eq_some (List.ne_nil_of_length_pos (hlength ▸ hn)) hdigits]

theorem parseWeek?_eq_some_iff {s : String} {m : Date} : parseWeek? s = some m ↔
    ∃ year week, IsWeekText year week s ∧ (1 ≤ week ∧ (week : Int) ≤ weeksIn year) ∧
      m.dayNumber = firstMonday year + 7 * (week - 1 : Nat) := by
  constructor
  · intro h
    have hwhole := intercalate_piecesBy '-' s.toList
    unfold parseWeek? at h
    split at h
    · rename_i ys ws hpieces
      simp only [Option.bind_eq_bind, Option.bind_eq_some_iff, digitsOf?_eq_some_iff (by decide : 0 < 4),
        digitsOf?_eq_some_iff (by decide : 0 < 2)] at h
      obtain ⟨year, ⟨hys, hylength, hyear⟩, week, ⟨hws, hwlength, hweek⟩, h⟩ := h
      split at h
      · rename_i hrange
        refine ⟨year, week, ⟨ys, ws, hys, hylength, hyear, hws, hwlength, hweek, ?_⟩, hrange,
          ofDayNumber?_eq_some_iff.1 h⟩
        rw [← hwhole, hpieces]
        simp
      · cases h
    · cases h
  · rintro ⟨year, week, ⟨ys, ws, hys, hylength, hyear, hws, hwlength, hweek, hs⟩, hrange, hm⟩
    have hhyphen {ds : List Char} : (∀ c ∈ ds, isAsciiDigit c = true) → ∀ c ∈ ds, (c == '-') = false :=
      beq_eq_false_of_digits rfl
    have hpieces : piecesBy (· == '-') s.toList = [ys, 'W' :: ws] := by
      rw [hs, piecesBy_append (hhyphen hys) rfl, piecesBy_of_not]
      exact List.forall_mem_cons.2 ⟨rfl, hhyphen hws⟩
    unfold parseWeek?
    rw [hpieces]
    simp only [(digitsOf?_eq_some_iff (by decide)).2 ⟨hys, hylength, hyear⟩,
      (digitsOf?_eq_some_iff (by decide)).2 ⟨hws, hwlength, hweek⟩, Option.bind_eq_bind, Option.bind_some]
    rw [if_pos hrange, ofDayNumber?_eq_some_iff, hm]

theorem IsWeekText.year_le {year week : Nat} {s : String} (h : IsWeekText year week s) : year ≤ 9999 := by
  obtain ⟨ys, ws, hys, hlength, rfl, -⟩ := h
  have hlt := digitsValue_lt hys
  rw [hlength] at hlt
  omega

/-- Texts of weeks are in the order of their years, and of their weeks in a year. -/
theorem IsWeekText.lt_iff {y w z u : Nat} {a b : String} (ha : IsWeekText y w a) (hb : IsWeekText z u b) :
    a < b ↔ y < z ∨ y = z ∧ w < u := by
  obtain ⟨ys, ws, hys, hylength, rfl, hws, hwlength, rfl, ha⟩ := ha
  obtain ⟨zs, us, hzs, hzlength, rfl, hus, hulength, rfl, hb⟩ := hb
  have hsame : ys = zs ↔ digitsValue 0 ys = digitsValue 0 zs :=
    ⟨congrArg _, digitsValue_inj hys hzs (hylength.trans hzlength.symm)⟩
  rw [String.lt_iff_toList_lt, ha, hb, append_lt_append_iff (hylength.trans hzlength.symm), List.cons_lt_cons_self,
    List.cons_lt_cons_self, digits_lt_iff hys hzs (hylength.trans hzlength.symm),
    digits_lt_iff hws hus (hwlength.trans hulength.symm), hsame]

/-- The Monday of a week that its year has is in the range of dates. -/
theorem exists_monday {year week : Nat} (hyear : year ≤ 9999) (hweek : 1 ≤ week ∧ (week : Int) ≤ weeksIn year) :
    ∃ m : Date, m.dayNumber = firstMonday year + 7 * (week - 1 : Nat) := by
  have hstart := firstMonday_spec year
  have hnext := firstMonday_spec (year + 1)
  have hsucc := firstMonday_succ year
  have hlow := daysBeforeYear_mono (y := -262142) (z := year) (by omega)
  have hhigh := daysBeforeYear_mono (y := (year + 1 : Nat)) (z := 262142) (by omega)
  have hyears : daysBeforeYear (-262143) + 7 ≤ daysBeforeYear (-262142) ∧
      daysBeforeYear 262142 + 7 ≤ daysBeforeYear 262143 := by decide
  exact exists_dayNumber_eq (by omega) (by omega)

theorem natAbs_dayNumber_lt {year week : Nat} {m : Date} (hyear : year ≤ 9999)
    (hweek : 1 ≤ week ∧ (week : Int) ≤ weeksIn year) (hm : m.dayNumber = firstMonday year + 7 * (week - 1 : Nat)) :
    (m.dayNumber * 86400).natAbs < 2 ^ 52 := by
  have hstart := firstMonday_spec year
  have hnext := firstMonday_spec (year + 1)
  have hsucc := firstMonday_succ year
  have hlow := daysBeforeYear_mono (y := 0) (z := year) (by omega)
  have hhigh := daysBeforeYear_mono (y := (year + 1 : Nat)) (z := 10000) (by omega)
  have hyears : daysBeforeYear 0 = -366 ∧ daysBeforeYear 10000 = 3652059 := by decide
  omega

/-- Weeks are in the order of their texts, as days and as seconds. -/
theorem weeks_in_order {a b : String} {m n : Date} (hm : parseWeek? a = some m) (hn : parseWeek? b = some n) :
    (a < b ↔ m.Before n) ∧ (a ≤ b ↔ (epochSeconds m).le (epochSeconds n) = true) := by
  obtain ⟨y, w, ha, hw, hm⟩ := parseWeek?_eq_some_iff.1 hm
  obtain ⟨z, u, hb, hu, hn⟩ := parseWeek?_eq_some_iff.1 hn
  have hbelow : a < b ↔ m.dayNumber < n.dayNumber := by rw [ha.lt_iff hb, hm, hn, monday_lt_iff hw hu]
  have habove : b < a ↔ n.dayNumber < m.dayNumber := by rw [hb.lt_iff ha, hm, hn, monday_lt_iff hu hw]
  refine ⟨hbelow.trans dayNumber_lt_iff, ?_⟩
  unfold epochSeconds
  rw [Binary64.ofInt_le_iff (natAbs_dayNumber_lt ha.year_le hw hm) (natAbs_dayNumber_lt hb.year_le hu hn), ← not_lt,
    habove, not_lt]
  omega

/-- A text is read as a week just if its year has the week, and then as the Monday of it. Weeks are in the order of their
texts, as days and as seconds. -/
theorem weeks_read :
    (∀ (v : String) (m : Date), parseWeek? v = some m ↔
      ∃ y w, IsWeekText y w v ∧ (1 ≤ w ∧ w ≤ isoWeeks y) ∧ IsWeek y w m) ∧
    (∀ v : String, (parseWeek? v).isSome = true ↔ ∃ y w, IsWeekText y w v ∧ 1 ≤ w ∧ w ≤ isoWeeks y) ∧
    ∀ (a b : String) (m n : Date), parseWeek? a = some m → parseWeek? b = some n →
      (a < b ↔ m.Before n) ∧ (a ≤ b ↔ (epochSeconds m).le (epochSeconds n) = true) := by
  have hhas {y w : Nat} : w ≤ isoWeeks y ↔ (w : Int) ≤ weeksIn y := by rw [weeksIn_eq, Nat.cast_le]
  refine ⟨fun v m => ?_, fun v => ?_, fun a b m n => weeks_in_order⟩
  · rw [parseWeek?_eq_some_iff]
    refine exists₂_congr fun y w => and_congr_right fun hv => ?_
    rw [isWeek_iff hv.year_le, hhas]
    exact (and_iff_right_of_imp And.left).symm.trans (and_congr_right fun _ => Iff.rfl)
  · rw [Option.isSome_iff_exists]
    constructor
    · rintro ⟨m, hm⟩
      obtain ⟨y, w, hv, hw, -⟩ := parseWeek?_eq_some_iff.1 hm
      exact ⟨y, w, hv, hw.1, hhas.2 hw.2⟩
    · rintro ⟨y, w, hv, hfirst, hlast⟩
      have hw : 1 ≤ w ∧ (w : Int) ≤ weeksIn y := ⟨hfirst, hhas.1 hlast⟩
      obtain ⟨m, hm⟩ := exists_monday hv.year_le hw
      exact ⟨m, parseWeek?_eq_some_iff.2 ⟨y, w, hv, hw, hm⟩⟩

/-- The last week of a year of 53 weeks, and the week that follows it in the next year. -/
theorem weeks_read_new_year :
    (parseWeek? "2020-W53" = Date.of? 2020 12 28 ∧ parseWeek? "2021-W01" = Date.of? 2021 1 4) ∧
      ∃ m n, parseWeek? "2020-W53" = some m ∧ parseWeek? "2021-W01" = some n ∧
        ("2020-W53" < "2021-W01" ↔ m.Before n) ∧
          ("2020-W53" ≤ "2021-W01" ↔ (epochSeconds m).le (epochSeconds n) = true) := by
  have hlast : parseWeek? "2020-W53" = some ⟨2020, 12, 28, by decide, by decide, by decide⟩ := by decide +kernel
  have hfirst : parseWeek? "2021-W01" = some ⟨2021, 1, 4, by decide, by decide, by decide⟩ := by decide +kernel
  exact ⟨⟨hlast, hfirst⟩, _, _, hlast, hfirst, weeks_read.2.2 _ _ _ _ hlast hfirst⟩

end Period

end FieldRules
