import FieldRules.Proofs.WrittenOrder
/-!
# Times of day

A time of day is read from the one text that it is written as (`Clock.parse?_eq_some_iff`), and the texts stand in the
order of the times (`Clock.text_lt_text_iff`). The test of times accepts the second 60 behind every minute. But this
second counts as the one before it, so a comparison cannot tell the two apart (`times_compared`).
-/

namespace FieldRules

open Text

namespace Clock

/-! ## Reading -/

theorem twoDigits?_eq_some_iff {cs : List Char} {n : Nat} : twoDigits? cs = some n ↔ n < 100 ∧ cs = padded 2 n := by
  constructor
  · intro h
    have hdigits : digits? cs = some n ∧ cs.length = 2 := by
      unfold twoDigits? at h
      split at h
      · exact ⟨h, rfl⟩
      · cases h
    have hall := isAsciiDigit_of_digits? hdigits.1
    have hne : cs ≠ [] := List.ne_nil_of_length_pos (by omega)
    have hvalue : digitsValue 0 cs = n := by
      rw [digits?_eq_some hne hall] at hdigits
      exact Option.some.inj hdigits.1
    have hlt := digitsValue_lt hall
    rw [hdigits.2, hvalue] at hlt
    exact ⟨hlt, by rw [← hvalue, (Filled.of_length hall hdigits.2).padded_eq (by decide)]⟩
  · rintro ⟨hlt, rfl⟩
    have hlength : (padded 2 n).length = 2 := length_padded_of_lt (by decide) hlt
    have hdigits := digits?_eq_some (List.ne_nil_of_length_pos (by omega)) fun c (hc : c ∈ padded 2 n) =>
      isAsciiDigit_of_mem_padded hc
    rw [digitsValue_padded] at hdigits
    obtain ⟨a, b, hab⟩ := List.length_eq_two.1 hlength
    rw [hab] at hdigits ⊢
    exact hdigits

theorem of?_eq_some_iff {hour minute second : Nat} {c : Clock} :
    of? hour minute second = some c ↔ c.hour = hour ∧ c.minute = minute ∧ c.second = second := by
  constructor
  · intro h
    unfold of? at h
    split at h
    · split at h
      · split at h
        · cases h
          exact ⟨rfl, rfl, rfl⟩
        · cases h
      · cases h
    · cases h
  · rintro ⟨rfl, rfl, rfl⟩
    simp [of?, c.hour_lt, c.minute_lt, c.second_le]

theorem toList_text (withSeconds : Bool) (c : Clock) : (c.text withSeconds).toList =
    padded 2 c.hour ++ ':' :: (padded 2 c.minute ++ if withSeconds then ':' :: padded 2 c.second else []) := by
  rw [text, String.toList_ofList, List.append_assoc, List.cons_append]

theorem toList_text_true (c : Clock) : (c.text true).toList = (c.text false).toList ++ ':' :: padded 2 c.second := by
  rw [toList_text, toList_text]
  simp

theorem colon_not_mem_padded (n : Nat) : ∀ c ∈ padded 2 n, (c == ':') = false :=
  beq_eq_false_of_digits rfl fun _ => isAsciiDigit_of_mem_padded

/-- A time is read from what it is written as; without seconds only a full minute is. -/
theorem parse?_eq_some_iff {withSeconds : Bool} {s : String} {c : Clock} :
    parse? withSeconds s = some c ↔ c.text withSeconds = s ∧ (withSeconds = false → c.second = 0) := by
  constructor
  · intro h
    have hwhole := intercalate_piecesBy ':' s.toList
    unfold parse? at h
    split at h
    · rename_i hour minute hpieces
      simp only [Option.bind_eq_bind, Option.bind_eq_some_iff, twoDigits?_eq_some_iff, of?_eq_some_iff] at h
      obtain ⟨_, ⟨-, rfl⟩, _, ⟨-, rfl⟩, rfl, rfl, hsecond⟩ := h
      refine ⟨String.toList_inj.1 ?_, fun _ => hsecond⟩
      rw [toList_text, ← hwhole, hpieces]
      simp
    · rename_i hour minute second hpieces
      simp only [Option.bind_eq_bind, Option.bind_eq_some_iff, twoDigits?_eq_some_iff, of?_eq_some_iff] at h
      obtain ⟨_, ⟨-, rfl⟩, _, ⟨-, rfl⟩, _, ⟨-, rfl⟩, rfl, rfl, rfl⟩ := h
      refine ⟨String.toList_inj.1 ?_, fun h => by cases h⟩
      rw [toList_text, ← hwhole, hpieces]
      simp
    · cases h
  · rintro ⟨rfl, hfull⟩
    have htwo {n : Nat} (hn : n < 100) : twoDigits? (padded 2 n) = some n := twoDigits?_eq_some_iff.2 ⟨hn, rfl⟩
    have hhour := htwo (c.hour_lt.trans (by decide))
    have hminute := htwo (c.minute_lt.trans (by decide))
    have hsecond := htwo (c.second_le.trans_lt (by decide))
    unfold parse?
    rw [toList_text, piecesBy_append (colon_not_mem_padded _) rfl]
    cases withSeconds with
    | false =>
      rw [if_neg Bool.false_ne_true, List.append_nil, piecesBy_of_not (colon_not_mem_padded _)]
      simp only [hhour, hminute, Option.bind_eq_bind, Option.bind_some, of?_eq_some_iff, hfull rfl, and_self]
    | true =>
      rw [if_pos rfl, piecesBy_append (colon_not_mem_padded _) rfl, piecesBy_of_not (colon_not_mem_padded _)]
      simp only [hhour, hminute, hsecond, Option.bind_eq_bind, Option.bind_some, of?_eq_some_iff, and_self]

/-! ## Order -/

variable {c d : Clock}

theorem length_parts (c : Clock) :
    (padded 2 c.hour).length = 2 ∧ (padded 2 c.minute).length = 2 ∧ (padded 2 c.second).length = 2 := by
  have htwo {n : Nat} (h : n < 100) : (padded 2 n).length = 2 := length_padded_of_lt (by decide) h
  exact ⟨htwo (c.hour_lt.trans (by decide)), htwo (c.minute_lt.trans (by decide)),
    htwo (c.second_le.trans_lt (by decide))⟩

/-- Texts of times are in the order of the times, where the second 60 is one of its own. -/
theorem text_lt_text_iff : c.text true < d.text true ↔
    c.hour < d.hour ∨ c.hour = d.hour ∧ (c.minute < d.minute ∨ c.minute = d.minute ∧ c.second < d.second) := by
  obtain ⟨hhour, hminute, hsecond⟩ := length_parts c
  obtain ⟨hhour', hminute', hsecond'⟩ := length_parts d
  rw [String.lt_iff_toList_lt, toList_text, toList_text, if_pos rfl, if_pos rfl,
    append_lt_append_iff (hhour.trans hhour'.symm), List.cons_lt_cons_self,
    append_lt_append_iff (hminute.trans hminute'.symm), List.cons_lt_cons_self,
    padded_lt_iff (hhour.trans hhour'.symm), padded_lt_iff (hminute.trans hminute'.symm),
    padded_lt_iff (hsecond.trans hsecond'.symm), padded_inj, padded_inj]

theorem text_false_inj : c.text false = d.text false ↔ c.hour = d.hour ∧ c.minute = d.minute := by
  constructor
  · intro h
    have hlist := congrArg String.toList h
    rw [toList_text, toList_text] at hlist
    obtain ⟨hhour, hrest⟩ := List.append_inj hlist ((length_parts c).1.trans (length_parts d).1.symm)
    simp only [Bool.false_eq_true, if_false, List.append_nil, List.cons.injEq, true_and] at hrest
    exact ⟨padded_inj.1 hhour, padded_inj.1 hrest⟩
  · rintro ⟨hhour, hminute⟩
    rw [text, text, hhour, hminute]
    rfl

theorem text_eq_append_iff {minute : String} {n : Nat} (hn : (padded 2 n).length = 2) :
    c.text true = minute ++ String.ofList (':' :: padded 2 n) ↔ c.text false = minute ∧ c.second = n := by
  rw [← String.toList_inj, toList_text_true, String.toList_append, String.toList_ofList]
  constructor
  · intro h
    obtain ⟨hminute, hsecond⟩ := List.append_inj' h (by rw [List.length_cons, List.length_cons, hn, (length_parts c).2.2])
    exact ⟨String.toList_inj.1 hminute, padded_inj.1 (List.cons.inj hsecond).2⟩
  · rintro ⟨rfl, rfl⟩
    rfl

theorem text_eq_last_iff {minute : String} : c.text true = minute ++ ":59" ↔ c.text false = minute ∧ c.second = 59 := by
  have hlast : (":59" : String) = String.ofList (':' :: padded 2 59) := by decide
  rw [hlast, text_eq_append_iff (by decide)]

theorem text_eq_leap_iff {minute : String} : c.text true = minute ++ ":60" ↔ c.text false = minute ∧ c.second = 60 := by
  have hleap : (":60" : String) = String.ofList (':' :: padded 2 60) := by decide
  rw [hleap, text_eq_append_iff (by decide)]

end Clock

/-- The first text is the last second of a minute, and the other one the leap second behind it. -/
def LeapBehind (s t : String) : Prop := ∃ minute, s = minute ++ ":59" ∧ t = minute ++ ":60"

theorem LeapBehind.lt {s t : String} (h : LeapBehind s t) : s < t := by
  obtain ⟨minute, rfl, rfl⟩ := h
  rw [String.lt_iff_toList_lt, String.toList_append, String.toList_append]
  exact List.append_left_lt (by decide)

namespace Clock

variable {c d : Clock}

theorem leapBehind_iff : LeapBehind (c.text true) (d.text true) ↔
    c.hour = d.hour ∧ c.minute = d.minute ∧ c.second = 59 ∧ d.second = 60 := by
  simp only [LeapBehind, text_eq_last_iff, text_eq_leap_iff]
  constructor
  · rintro ⟨minute, ⟨hc, hsecond⟩, hd, hsecond'⟩
    obtain ⟨hhour, hminute⟩ := text_false_inj.1 (hc.trans hd.symm)
    exact ⟨hhour, hminute, hsecond, hsecond'⟩
  · rintro ⟨hhour, hminute, hsecond, hsecond'⟩
    exact ⟨_, ⟨rfl, hsecond⟩, (text_false_inj.2 ⟨hhour, hminute⟩).symm, hsecond'⟩

/-- Times count in the order of their texts, but that a leap second counts no more than the second before it. -/
theorem seconds_le_iff : c.seconds ≤ d.seconds ↔ c.text true ≤ d.text true ∨ LeapBehind (d.text true) (c.text true) := by
  have hminute := c.minute_lt
  have hminute' := d.minute_lt
  have hsecond := c.second_le
  have hsecond' := d.second_le
  have horder : c.text true ≤ d.text true ↔ ¬ d.text true < c.text true := not_lt.symm
  rw [horder, text_lt_text_iff, leapBehind_iff]
  unfold seconds
  omega

theorem clockSeconds_le_iff : (clockSeconds c).le (clockSeconds d) = true ↔ c.seconds ≤ d.seconds := by
  have hday (c : Clock) : c.seconds < 86400 := by
    have hhour := c.hour_lt
    have hminute := c.minute_lt
    unfold seconds
    omega
  have hc := hday c
  have hd := hday d
  rw [clockSeconds, clockSeconds, Binary64.ofInt_le_iff (by omega) (by omega), Int.ofNat_le]

end Clock

/-! ## The written forms -/

/-- Two ASCII digits, of a number up to `last`. -/
structure TwoDigits (last : Nat) (cs : List Char) : Prop where
  digits : ∀ c ∈ cs, isAsciiDigit c = true
  length : cs.length = 2
  value_le : digitsValue 0 cs ≤ last

theorem TwoDigits.padded_eq {last : Nat} {cs : List Char} (h : TwoDigits last cs) : padded 2 (digitsValue 0 cs) = cs :=
  (Filled.of_length h.digits h.length).padded_eq (by decide)

theorem twoDigits_padded {last n : Nat} (h : n ≤ last) (hlast : last < 100) : TwoDigits last (padded 2 n) where
  digits _ := isAsciiDigit_of_mem_padded
  length := length_padded_of_lt (by decide) (h.trans_lt hlast)
  value_le := by rwa [digitsValue_padded]

/-- A text `HH:MM`, with an hour up to 23 and a minute up to 59. -/
def IsMinute (s : String) : Prop :=
  ∃ hour minute, TwoDigits 23 hour ∧ TwoDigits 59 minute ∧ s.toList = hour ++ ':' :: minute

/-- A text `HH:MM:SS`, with a second up to 59. -/
def IsSecond (s : String) : Prop :=
  ∃ minute second, IsMinute minute ∧ TwoDigits 59 second ∧ s.toList = minute.toList ++ ':' :: second

/-- A text `HH:MM:60`. -/
def IsLeapSecond (s : String) : Prop := ∃ minute, IsMinute minute ∧ s = minute ++ ":60"

namespace Clock

variable {s : String}

theorem isMinute_text (c : Clock) : IsMinute (c.text false) := by
  refine ⟨padded 2 c.hour, padded 2 c.minute, twoDigits_padded (Nat.le_of_lt_succ c.hour_lt) (by decide),
    twoDigits_padded (Nat.le_of_lt_succ c.minute_lt) (by decide), ?_⟩
  rw [toList_text, if_neg Bool.false_ne_true, List.append_nil]

theorem exists_of_isMinute (h : IsMinute s) {second : Nat} (hsecond : second ≤ 60) :
    ∃ c : Clock, c.text false = s ∧ c.second = second := by
  obtain ⟨hour, minute, hhour, hminute, hs⟩ := h
  refine ⟨⟨digitsValue 0 hour, digitsValue 0 minute, second, Nat.lt_succ_of_le hhour.value_le,
    Nat.lt_succ_of_le hminute.value_le, hsecond⟩, String.toList_inj.1 ?_, rfl⟩
  rw [toList_text, if_neg Bool.false_ne_true, List.append_nil, hhour.padded_eq, hminute.padded_eq, hs]

theorem isSecond_iff : IsSecond s ↔ ∃ c : Clock, c.second ≤ 59 ∧ c.text true = s := by
  constructor
  · rintro ⟨minute, second, hminute, hsecond, hs⟩
    have hle := hsecond.value_le
    obtain ⟨c, hc, hvalue⟩ := exists_of_isMinute hminute (hle.trans (by decide))
    refine ⟨c, hvalue ▸ hle, String.toList_inj.1 ?_⟩
    rw [toList_text_true, hc, hvalue, hsecond.padded_eq, hs]
  · rintro ⟨c, hsecond, rfl⟩
    exact ⟨c.text false, padded 2 c.second, c.isMinute_text, twoDigits_padded hsecond (by decide), c.toList_text_true⟩

theorem isLeapSecond_iff : IsLeapSecond s ↔ ∃ c : Clock, c.second = 60 ∧ c.text true = s := by
  constructor
  · rintro ⟨minute, hminute, rfl⟩
    obtain ⟨c, hc, hsecond⟩ := exists_of_isMinute hminute (Nat.le_refl 60)
    exact ⟨c, hsecond, text_eq_leap_iff.2 ⟨hc, hsecond⟩⟩
  · rintro ⟨c, hsecond, rfl⟩
    exact ⟨c.text false, c.isMinute_text, text_eq_leap_iff.2 ⟨rfl, hsecond⟩⟩

theorem parse?_false_isSome_iff : (parse? false s).isSome = true ↔ IsMinute s := by
  simp only [Option.isSome_iff_exists, parse?_eq_some_iff]
  constructor
  · rintro ⟨c, rfl, -⟩
    exact c.isMinute_text
  · intro h
    obtain ⟨c, hc, hsecond⟩ := exists_of_isMinute h (Nat.zero_le 60)
    exact ⟨c, hc, fun _ => hsecond⟩

theorem parse?_true_isSome_iff : (parse? true s).isSome = true ↔ IsSecond s ∨ IsLeapSecond s := by
  simp only [Option.isSome_iff_exists, parse?_eq_some_iff, isSecond_iff, isLeapSecond_iff, ← exists_or]
  refine exists_congr fun c => ?_
  have hsecond := c.second_le
  have hcases : c.second ≤ 59 ∨ c.second = 60 := by omega
  tauto

end Clock

theorem not_isLeapSecond_of_isSecond {s : String} (h : IsSecond s) : ¬ IsLeapSecond s := by
  obtain ⟨c, hsecond, rfl⟩ := Clock.isSecond_iff.1 h
  rintro ⟨minute, -, hs⟩
  have hleap := (Clock.text_eq_leap_iff.1 hs).2
  omega

/-- A text without seconds is shorter. -/
theorem not_isLeapSecond_of_isMinute {s : String} (h : IsMinute s) : ¬ IsLeapSecond s := by
  have hlength {s : String} (h : IsMinute s) : s.toList.length = 5 := by
    obtain ⟨hour, minute, hhour, hminute, hs⟩ := h
    rw [hs, List.length_append, List.length_cons, hhour.length, hminute.length]
  rintro ⟨minute, hminute, rfl⟩
  have hlong := hlength h
  rw [String.toList_append, List.length_append, hlength hminute] at hlong
  exact absurd hlong (by decide)

/-! ## The tests -/

/-- The test of times. -/
def timeTest (values : List String) : Token := { test := .time, values }

theorem readsTexts_time :
    ReadsTexts .time (fun s => (Clock.parse? false s).or (Clock.parse? true s)) .notTime :=
  ⟨rfl, fun _ _ _ => rfl, by decide, by decide⟩

theorem accepted_time_iff (scope : Scope) (values : List String) (v : String) :
    (Evaluation.mk scope (timeTest values) (.text v)).run.value = .ok .accepted ↔
      IsMinute (trim v) ∨ IsSecond (trim v) ∨ IsLeapSecond (trim v) := by
  rw [timeTest, readsTexts_time.accepted_iff, Option.isSome_or, Bool.or_eq_true,
    Clock.parse?_false_isSome_iff, Clock.parse?_true_isSome_iff]

theorem exists_clock_of_mem_sniff {s : String} {x : Binary64} (h : ⟨.timeWithSeconds, x⟩ ∈ sniff s) :
    ∃ c : Clock, c.text true = trim s ∧ clockSeconds c = x := by
  unfold sniff at h
  obtain ⟨r, -, hr⟩ := List.mem_filterMap.1 h
  obtain ⟨y, hy, hsample⟩ := Option.map_eq_some_iff.1 hr
  cases hsample
  have hscalar : (Clock.parse? true (trim s)).map clockSeconds = some x := hy
  obtain ⟨c, hparse, hx⟩ := Option.map_eq_some_iff.1 hscalar
  exact ⟨c, (Clock.parse?_eq_some_iff.1 hparse).1, hx⟩

section
variable {a b : String} {x y : Binary64}

theorem comparablePair_times (ha : ⟨.timeWithSeconds, x⟩ ∈ sniff a) (hb : ⟨.timeWithSeconds, y⟩ ∈ sniff b) :
    comparablePair a b = .ok (x, y) := by
  have hkind : Reading.timeWithSeconds ≠ .number ∧ Reading.timeWithSeconds ≠ .year := by decide
  have hcomparable : Reading.timeWithSeconds.comparable .timeWithSeconds = true := rfl
  rw [comparablePair_eq_ok_iff, sniff_eq_singleton ha hkind.1 hkind.2, sniff_eq_singleton hb hkind.1 hkind.2]
  simp [firstByValue, hcomparable]

theorem accepted_max_iff {scope : Scope} (h : comparablePair a b = .ok (x, y)) :
    (Evaluation.mk scope { test := .max, values := [b] } (.text a)).run.value = .ok .accepted ↔ x.le y = true := by
  rw [value_run_max, Check.atMost, passed_over_eq_accepted_iff, h]
  simp

theorem accepted_min_iff {scope : Scope} (h : comparablePair a b = .ok (x, y)) :
    (Evaluation.mk scope { test := .min, values := [b] } (.text a)).run.value = .ok .accepted ↔ y.le x = true := by
  rw [value_run_min, Check.atLeast, passed_over_eq_accepted_iff, h]
  simp

end

/-- The numbers of two texts are in the order of the texts. -/
def ComparedAsWritten (a b : String) (x y : Binary64) : Prop :=
  (x.le y = true ↔ trim a ≤ trim b) ∧ (y.le x = true ↔ trim b ≤ trim a)

/-- The bounds take two texts for equal. -/
def CountEqual (scope : Scope) (a b : String) : Prop :=
  (Evaluation.mk scope { test := .max, values := [b] } (.text a)).run.value = .ok .accepted ∧
    (Evaluation.mk scope { test := .min, values := [b] } (.text a)).run.value = .ok .accepted

/-- The test of times accepts hours and minutes, with a second of the minute or the second 60 behind it. Times with
seconds are compared as they are written, and no two count as equal, but for a leap second and the second before it. -/
theorem times_compared (scope : Scope) (values : List String) (v : String) {a b : String} {x y : Binary64}
    (ha : ⟨.timeWithSeconds, x⟩ ∈ sniff a) (hb : ⟨.timeWithSeconds, y⟩ ∈ sniff b) :
    ((Evaluation.mk scope (timeTest values) (.text v)).run.value = .ok .accepted ↔
      IsMinute (trim v) ∨ IsSecond (trim v) ∨ IsLeapSecond (trim v)) ∧
    (((Evaluation.mk scope (timeTest values) (.text v)).run.value = .ok .accepted ↔
      IsMinute (trim v) ∨ IsSecond (trim v)) ↔ ¬ IsLeapSecond (trim v)) ∧
    (x.le y = true ↔ trim a ≤ trim b ∨ LeapBehind (trim b) (trim a)) ∧
    (ComparedAsWritten a b x y ↔ ¬ LeapBehind (trim a) (trim b) ∧ ¬ LeapBehind (trim b) (trim a)) ∧
    (CountEqual scope a b ↔
      trim a = trim b ∨ LeapBehind (trim a) (trim b) ∨ LeapBehind (trim b) (trim a)) := by
  have haccepted := accepted_time_iff scope values v
  have hle {a b : String} {x y : Binary64} (ha : ⟨.timeWithSeconds, x⟩ ∈ sniff a)
      (hb : ⟨.timeWithSeconds, y⟩ ∈ sniff b) :
      x.le y = true ↔ trim a ≤ trim b ∨ LeapBehind (trim b) (trim a) := by
    obtain ⟨c, hc, rfl⟩ := exists_clock_of_mem_sniff ha
    obtain ⟨d, hd, rfl⟩ := exists_clock_of_mem_sniff hb
    rw [Clock.clockSeconds_le_iff, Clock.seconds_le_iff, hc, hd]
  have hleap {s t : String} (h : LeapBehind s t) : s ≤ t ∧ ¬ t ≤ s := ⟨h.lt.le, not_le_of_gt h.lt⟩
  refine ⟨haccepted, ?_, hle ha hb, ?_, ?_⟩
  · rw [haccepted, ← or_assoc, or_iff_left_iff_imp]
    constructor
    · intro h hleap
      exact (h hleap).elim (fun hs => not_isLeapSecond_of_isMinute hs hleap)
        fun hs => not_isLeapSecond_of_isSecond hs hleap
    · exact fun h hleap => absurd hleap h
  · rw [ComparedAsWritten, hle ha hb, hle hb ha, or_iff_left_iff_imp, or_iff_left_iff_imp]
    constructor
    · rintro ⟨hdown, hup⟩
      exact ⟨fun h => (hleap h).2 (hup h), fun h => (hleap h).2 (hdown h)⟩
    · rintro ⟨hup, hdown⟩
      exact ⟨fun h => absurd h hdown, fun h => absurd h hup⟩
  · have hpair := comparablePair_times ha hb
    rw [CountEqual, accepted_max_iff hpair, accepted_min_iff hpair, hle ha hb, hle hb ha, le_antisymm_iff]
    constructor
    · rintro ⟨hup | hdown, hdown' | hup'⟩
      · exact .inl ⟨hup, hdown'⟩
      · exact .inr (.inl hup')
      · exact .inr (.inr hdown)
      · exact .inr (.inr hdown)
    · rintro (⟨hup, hdown⟩ | hup | hdown)
      · exact ⟨.inl hup, .inl hdown⟩
      · exact ⟨.inl (hleap hup).1, .inr hup⟩
      · exact ⟨.inr hdown, .inl (hleap hdown).1⟩

/-- The last second but one of a day and the leap second at its end. -/
theorem times_compared_midnight :
    let scope : Scope := { collaborators := .mute }
    let late : Clock := ⟨23, 59, 58, by decide, by decide, by decide⟩
    let leap : Clock := ⟨23, 59, 60, by decide, by decide, by decide⟩
    ⟨.timeWithSeconds, clockSeconds late⟩ ∈ sniff "23:59:58" ∧ ⟨.timeWithSeconds, clockSeconds leap⟩ ∈ sniff " 23:59:60" ∧
      (Evaluation.mk scope (timeTest []) (.text "08:30 ")).run.value = .ok .accepted ∧
      ComparedAsWritten "23:59:58" " 23:59:60" (clockSeconds late) (clockSeconds leap) ∧
      ¬ CountEqual scope "23:59:58" " 23:59:60" := by
  intro scope late leap
  have hlate : ⟨.timeWithSeconds, clockSeconds late⟩ ∈ sniff "23:59:58" := by decide +kernel
  have hleap : ⟨.timeWithSeconds, clockSeconds leap⟩ ∈ sniff " 23:59:60" := by decide +kernel
  have htext : trim "23:59:58" = late.text true ∧ trim " 23:59:60" = leap.text true := by decide
  have hapart : ¬ LeapBehind (trim "23:59:58") (trim " 23:59:60") ∧ ¬ LeapBehind (trim " 23:59:60") (trim "23:59:58") := by
    rw [htext.1, htext.2, Clock.leapBehind_iff, Clock.leapBehind_iff]
    decide
  obtain ⟨haccepted, -, -, hcompared, hequal⟩ := times_compared scope [] "08:30 " hlate hleap
  refine ⟨hlate, hleap, haccepted.2 (.inl ?_), hcompared.2 hapart, fun h => ?_⟩
  · exact Clock.parse?_false_isSome_iff.1 (by decide)
  · exact (hequal.1 h).elim (by decide) fun hbehind => hbehind.elim hapart.1 hapart.2

/-- The second 60 is accepted as a time in the middle of a day, and counts as equal to the second before it. -/
theorem leap_second_counts_equal :
    let scope : Scope := { collaborators := .mute }
    (Evaluation.mk scope (timeTest []) (.text "10:00:60")).run.value = .ok .accepted ∧
      IsLeapSecond (trim "10:00:60") ∧ ¬ IsSecond (trim "10:00:60") ∧ ¬ IsMinute (trim "10:00:60") ∧
      trim "10:00:59" < trim "10:00:60" ∧
      (∃ x, ⟨.timeWithSeconds, x⟩ ∈ sniff "10:00:59" ∧ ⟨.timeWithSeconds, x⟩ ∈ sniff "10:00:60") ∧
      CountEqual scope "10:00:60" "10:00:59" := by
  intro scope
  have hleap : IsLeapSecond (trim "10:00:60") :=
    ⟨"10:00", Clock.parse?_false_isSome_iff.1 (by decide), by decide⟩
  refine ⟨by decide, hleap, fun h => not_isLeapSecond_of_isSecond h hleap, fun h => not_isLeapSecond_of_isMinute h hleap,
    by decide, ⟨clockSeconds ⟨10, 0, 59, by decide, by decide, by decide⟩, by decide +kernel, by decide +kernel⟩,
    by decide +kernel, by decide +kernel⟩

end FieldRules
