import FieldRules.Proofs.Denial
import FieldRules.Proofs.NumberGrammar
/-!
# How dates are written

A text is read as a date if the date found in it is written as that very text. What a date is written as is told by its
digits: a number filled up with zeros to so many places is known by its value (`Filled.inj`), so that each way of
writing a day but one is refused (`Date.parse?_isSome_iff`). The years that four digits cannot tell have a sign, and the
test of dates accepts them too (`date_accepted_iff`).
-/

namespace FieldRules

open Text
open Binary64 (signed)

/-! ## Digits filled up with zeros -/

namespace Text

theorem digitsValue_eq (n : Nat) (cs : List Char) : digitsValue n cs = 10 ^ cs.length * n + digitsValue 0 cs := by
  induction cs generalizing n with
  | nil => simp [digitsValue]
  | cons c cs ih =>
    have hcons (m : Nat) : digitsValue m (c :: cs) = digitsValue (10 * m + (c.toNat - '0'.toNat)) cs := rfl
    rw [hcons, hcons, ih, ih (10 * 0 + _), List.length_cons, pow_succ]
    ring

theorem digitsValue_cons (c : Char) (cs : List Char) :
    digitsValue 0 (c :: cs) = 10 ^ cs.length * (c.toNat - 48) + digitsValue 0 cs := by
  have hcons : digitsValue 0 (c :: cs) = digitsValue (c.toNat - 48) cs := by
    simp [digitsValue]
  rw [hcons, digitsValue_eq]

theorem digitsValue_lt {ds : List Char} (h : ∀ c ∈ ds, isAsciiDigit c = true) : digitsValue 0 ds < 10 ^ ds.length := by
  induction ds with
  | nil => decide
  | cons c ds ih =>
    obtain ⟨hc, hds⟩ := List.forall_mem_cons.1 h
    have hdigit : c.toNat - 48 ≤ 9 := by
      have := (isAsciiDigit_iff.1 hc).2
      omega
    have hrest := ih hds
    have hfirst := Nat.mul_le_mul_left (10 ^ ds.length) hdigit
    rw [digitsValue_cons, List.length_cons, pow_succ]
    omega

/-- So many digits are known by their value. -/
theorem digitsValue_inj {ds es : List Char} (hds : ∀ c ∈ ds, isAsciiDigit c = true)
    (hes : ∀ c ∈ es, isAsciiDigit c = true) (hlength : ds.length = es.length)
    (h : digitsValue 0 ds = digitsValue 0 es) : ds = es := by
  induction ds generalizing es with
  | nil => exact (List.length_eq_zero_iff.1 hlength.symm).symm
  | cons c ds ih =>
    match es with
    | d :: es =>
      obtain ⟨hc, hds⟩ := List.forall_mem_cons.1 hds
      obtain ⟨hd, hes⟩ := List.forall_mem_cons.1 hes
      have hlength : ds.length = es.length := Nat.succ.inj hlength
      have hlt := digitsValue_lt hds
      have hlt' := digitsValue_lt hes
      rw [digitsValue_cons, digitsValue_cons, hlength] at h
      rw [hlength] at hlt
      have hfirst : c.toNat - 48 = d.toNat - 48 := by
        have := congrArg (· / 10 ^ es.length) h
        simpa [Nat.mul_add_div, Nat.div_eq_of_lt, hlt, hlt'] using this
      have hchar : c.toNat = d.toNat := by
        have := (isAsciiDigit_iff.1 hc).1
        have := (isAsciiDigit_iff.1 hd).1
        omega
      rw [Char.toNat_inj.1 hchar, ih hds hes hlength (by rw [hfirst] at h; omega)]

theorem digitsValue_padded (width n : Nat) : digitsValue 0 (padded width n) = n := by
  have happend : Nat.ofDigitChars 10 (padded width n) 0 =
      Nat.ofDigitChars 10 (Nat.toDigits 10 n) (Nat.ofDigitChars 10 (List.replicate _ '0') 0) :=
    Nat.ofDigitChars_append 0
  rw [Nat.ofDigitChars_replicate_zero, Nat.mul_zero, Nat.ofDigitChars_toDigits (by decide) (by decide)] at happend
  exact happend

theorem length_padded (width n : Nat) : (padded width n).length = max width (Nat.toDigits 10 n).length := by
  simp only [padded, List.length_append, List.length_replicate]
  omega

theorem length_padded_le_iff {width n k : Nat} (hk : 0 < k) : (padded width n).length ≤ k ↔ width ≤ k ∧ n < 10 ^ k := by
  rw [length_padded, max_le_iff, Nat.length_toDigits_le_iff (by decide) hk]

theorem length_padded_of_lt {width n : Nat} (hwidth : 0 < width) (h : n < 10 ^ width) : (padded width n).length = width :=
  le_antisymm ((length_padded_le_iff hwidth).2 ⟨le_rfl, h⟩) (length_padded width n ▸ le_max_left _ _)

/-- Digits that are filled up with zeros to `width` places: if there are more, they begin with no zero. -/
structure Filled (width : Nat) (ds : List Char) : Prop where
  digits : ∀ c ∈ ds, isAsciiDigit c = true
  width_le : width ≤ ds.length
  head : width < ds.length → ds.head? ≠ some '0'

theorem Filled.of_length {width : Nat} {ds : List Char} (h : ∀ c ∈ ds, isAsciiDigit c = true)
    (hlength : ds.length = width) : Filled width ds where
  digits := h
  width_le := hlength.ge
  head hlt := absurd hlt (by omega)

theorem filled_padded {width : Nat} (hwidth : 0 < width) (n : Nat) : Filled width (padded width n) where
  digits c hc := isAsciiDigit_of_mem_padded hc
  width_le := length_padded width n ▸ le_max_left _ _
  head hlt hzero := by
    obtain ⟨ds, hds⟩ : ∃ ds, padded width n = '0' :: ds := by
      cases hn : padded width n with
      | nil =>
        rw [hn] at hzero
        cases hzero
      | cons c ds =>
        rw [hn] at hzero
        exact ⟨ds, by rw [Option.some.inj hzero]⟩
    -- Without the zero the value is the same, and there are digits enough.
    have hvalue : digitsValue 0 ds = n := by
      rw [← digitsValue_padded width n, hds, digitsValue_cons]
      simp
    have hlength : (padded width n).length = ds.length + 1 := by rw [hds, List.length_cons]
    have hless : n < 10 ^ ds.length := hvalue ▸ digitsValue_lt fun c hc =>
      isAsciiDigit_of_mem_padded (hds ▸ List.mem_cons_of_mem _ hc)
    have hle : (padded width n).length ≤ ds.length := (length_padded_le_iff (by omega)).2 ⟨by omega, hless⟩
    omega

/-- With the same value there are no more places: one more would begin with a digit that counts for too much. -/
theorem Filled.length_le {width : Nat} {ds es : List Char} (hds : Filled width ds) (hes : Filled width es)
    (h : digitsValue 0 ds = digitsValue 0 es) : ds.length ≤ es.length := by
  by_contra hlt
  have hwidth := hes.width_le
  have hhead := hds.head (by omega)
  match ds with
  | [] => exact hlt (Nat.zero_le _)
  | c :: ds =>
    obtain ⟨hc, -⟩ := List.forall_mem_cons.1 hds.digits
    have hzero : c.toNat ≠ '0'.toNat := fun hc => hhead (by rw [Char.toNat_inj.1 hc]; rfl)
    have hfirst : 1 ≤ c.toNat - 48 := by
      have := (isAsciiDigit_iff.1 hc).1
      have : '0'.toNat = 48 := rfl
      omega
    have hlow : 10 ^ ds.length ≤ digitsValue 0 (c :: ds) := by
      rw [digitsValue_cons]
      exact le_add_right (Nat.le_mul_of_pos_right _ hfirst)
    have hhigh := digitsValue_lt hes.digits
    rw [List.length_cons] at hlt
    have hpow : 10 ^ es.length ≤ 10 ^ ds.length := Nat.pow_le_pow_right (by decide) (by omega)
    omega

/-- Digits that are filled up to a width are known by their value. -/
theorem Filled.inj {width : Nat} {ds es : List Char} (hds : Filled width ds) (hes : Filled width es)
    (h : digitsValue 0 ds = digitsValue 0 es) : ds = es :=
  digitsValue_inj hds.digits hes.digits (le_antisymm (hds.length_le hes h) (hes.length_le hds h.symm)) h

theorem Filled.padded_eq {width : Nat} {ds : List Char} (hwidth : 0 < width) (h : Filled width ds) :
    padded width (digitsValue 0 ds) = ds :=
  (filled_padded hwidth _).inj h (digitsValue_padded _ _)

/-- A separator that is no digit does not part digits. -/
theorem beq_eq_false_of_digits {sep : Char} (hsep : isAsciiDigit sep = false) {ds : List Char}
    (h : ∀ c ∈ ds, isAsciiDigit c = true) : ∀ c ∈ ds, (c == sep) = false := by
  intro c hc
  rw [beq_eq_false_iff_ne]
  rintro rfl
  exact Bool.eq_false_iff.1 hsep (h c hc)

theorem digits?_eq_some {ds : List Char} (hne : ds ≠ []) (h : ∀ c ∈ ds, isAsciiDigit c = true) :
    digits? ds = some (digitsValue 0 ds) := by
  have hempty : ds.isEmpty = false := List.isEmpty_eq_false_iff.2 hne
  have hall : ds.all isAsciiDigit = true := List.all_eq_true.2 h
  simp [digits?, hempty, hall]

end Text

/-! ## The parts of a date -/

/-- A text with the parts of a date. -/
structure DateText where
  sign : Option Bool
  year : List Char
  month : List Char
  day : List Char

namespace DateText

def chars (t : DateText) : List Char := signText t.sign ++ (t.year ++ '-' :: (t.month ++ '-' :: t.day))

/-- The year with its sign. -/
def yearNumber (t : DateText) : Int := signed (t.sign == some true) (digitsValue 0 t.year)

/-- The month has two digits and is one of the twelve, and the day has two digits and is one of the month. -/
structure InCalendar (t : DateText) : Prop where
  year_digits : ∀ c ∈ t.year, isAsciiDigit c = true
  month_digits : ∀ c ∈ t.month, isAsciiDigit c = true
  day_digits : ∀ c ∈ t.day, isAsciiDigit c = true
  month_length : t.month.length = 2
  month_range : 1 ≤ digitsValue 0 t.month ∧ digitsValue 0 t.month ≤ 12
  day_length : t.day.length = 2
  day_range : 1 ≤ digitsValue 0 t.day ∧ digitsValue 0 t.day ≤ daysInMonth t.yearNumber (digitsValue 0 t.month)

/-- A date of the calendar with a year of four digits. -/
structure Plain (t : DateText) : Prop extends t.InCalendar where
  sign : t.sign = none
  year_length : t.year.length = 4

/-- A date of the calendar with a sign, and a year from -262143 to 262142 that four digits alone cannot tell. The year
has four digits, or more if it needs them. -/
structure Signed (t : DateText) : Prop extends t.InCalendar where
  sign : t.sign.isSome = true
  year_length : 4 ≤ t.year.length
  year_head : 4 < t.year.length → t.year.head? ≠ some '0'
  year_outside : t.yearNumber < 0 ∨ 9999 < t.yearNumber
  year_range : -262143 ≤ t.yearNumber ∧ t.yearNumber ≤ 262142

theorem cutSign_chars {t : DateText} (hyear : t.year ≠ []) (hdigits : ∀ c ∈ t.year, isAsciiDigit c = true) :
    cutSign t.chars = (t.sign, t.year ++ '-' :: (t.month ++ '-' :: t.day)) := by
  refine cutSign_signText t.sign fun c hc => ?_
  rw [List.head?_append_of_ne_nil _ hyear] at hc
  have hc := hdigits c (List.mem_of_head? hc)
  exact ⟨ne_of_digit not_isAsciiDigit_of_mem_numberSigns (by decide) hc,
    ne_of_digit not_isAsciiDigit_of_mem_numberSigns (by decide) hc⟩

theorem Plain.year_ne_nil {t : DateText} (h : t.Plain) : t.year ≠ [] :=
  List.ne_nil_of_length_pos (by rw [h.year_length]; decide)

theorem Signed.year_ne_nil {t : DateText} (h : t.Signed) : t.year ≠ [] :=
  List.ne_nil_of_length_pos (Nat.lt_of_lt_of_le (by decide) h.year_length)

end DateText

namespace Date

/-- How a date is written. -/
def written (d : Date) : DateText where
  sign := if 0 ≤ d.year ∧ d.year ≤ 9999 then none else some (decide (d.year < 0))
  year := padded 4 d.year.natAbs
  month := padded 2 d.month
  day := padded 2 d.day

theorem yearText_eq (y : Int) : yearText y =
    signText (if 0 ≤ y ∧ y ≤ 9999 then none else some (decide (y < 0))) ++ padded 4 y.natAbs := by
  unfold yearText
  split
  · rename_i hplain
    rw [show y.toNat = y.natAbs by omega]
    rfl
  · by_cases hneg : y < 0 <;> simp [hneg, signText]

theorem toList_text (d : Date) : d.text.toList = d.written.chars := by
  rw [text, String.toList_ofList, yearText_eq]
  simp [DateText.chars, written]

theorem yearNumber_written (d : Date) : d.written.yearNumber = d.year := by
  rw [DateText.yearNumber, written, digitsValue_padded]
  by_cases hplain : 0 ≤ d.year ∧ d.year ≤ 9999
  · rw [if_pos hplain]
    exact Int.natAbs_of_nonneg hplain.1
  · rw [if_neg hplain]
    by_cases hneg : d.year < 0
    · simp only [hneg, decide_true, beq_self_eq_true, signed, if_true]
      omega
    · simp only [hneg, decide_false, signed]
      exact Int.natAbs_of_nonneg (by omega)

theorem daysInMonth_le (y : Int) (m : Nat) : daysInMonth y m ≤ 31 := by
  unfold daysInMonth
  split_ifs <;> decide

theorem inCalendar_written (d : Date) : d.written.InCalendar where
  year_digits c hc := isAsciiDigit_of_mem_padded hc
  month_digits c hc := isAsciiDigit_of_mem_padded hc
  day_digits c hc := isAsciiDigit_of_mem_padded hc
  month_length := length_padded_of_lt (by decide) (Nat.lt_of_le_of_lt d.month_range.2 (by decide))
  month_range := by
    rw [written, digitsValue_padded]
    exact d.month_range
  day_length := length_padded_of_lt (by decide)
    (Nat.lt_of_le_of_lt (d.day_range.2.trans (daysInMonth_le _ _)) (by decide))
  day_range := by
    rw [yearNumber_written, written, digitsValue_padded, digitsValue_padded]
    exact d.day_range

theorem plain_or_signed (d : Date) : d.written.Plain ∨ d.written.Signed := by
  have hcalendar := inCalendar_written d
  have hfilled : Filled 4 (padded 4 d.year.natAbs) := filled_padded (by decide) _
  by_cases hplain : 0 ≤ d.year ∧ d.year ≤ 9999
  · left
    exact { hcalendar with
      sign := if_pos hplain
      year_length := length_padded_of_lt (by decide) (by omega) }
  · right
    exact { hcalendar with
      sign := by rw [written, if_neg hplain]; rfl
      year_length := hfilled.width_le
      year_head := hfilled.head
      year_outside := by rw [yearNumber_written]; omega
      year_range := by rw [yearNumber_written]; exact d.year_range }

/-- What is a date by its parts is the written form of one. -/
theorem exists_written {t : DateText} (h : t.Plain ∨ t.Signed) : ∃ d : Date, d.written = t := by
  have hcalendar : t.InCalendar := h.elim (·.toInCalendar) (·.toInCalendar)
  obtain ⟨hfilled, hsign, hrange⟩ : Filled 4 t.year ∧
      (if 0 ≤ t.yearNumber ∧ t.yearNumber ≤ 9999 then none else some (decide (t.yearNumber < 0))) = t.sign ∧
      -262143 ≤ t.yearNumber ∧ t.yearNumber ≤ 262142 := by
    rcases h with hplain | hsigned
    · have hnumber : t.yearNumber = digitsValue 0 t.year := by
        rw [DateText.yearNumber, hplain.sign]
        rfl
      have hlt := digitsValue_lt hcalendar.year_digits
      rw [hplain.year_length] at hlt
      refine ⟨.of_length hcalendar.year_digits hplain.year_length, ?_, by omega⟩
      rw [if_pos (by omega), hplain.sign]
    · have houtside := hsigned.year_outside
      refine ⟨⟨hcalendar.year_digits, hsigned.year_length, hsigned.year_head⟩, ?_, hsigned.year_range⟩
      obtain ⟨negative, hsign⟩ := Option.isSome_iff_exists.1 hsigned.sign
      have hnumber : t.yearNumber = signed negative (digitsValue 0 t.year) := by
        rw [DateText.yearNumber, hsign]
        cases negative <;> rfl
      rw [if_neg (by omega), hsign, Option.some.injEq]
      cases negative with
      | true =>
        have : t.yearNumber = -(digitsValue 0 t.year : Int) := hnumber
        exact decide_eq_true (by omega)
      | false =>
        have : t.yearNumber = digitsValue 0 t.year := hnumber
        exact decide_eq_false (by omega)
  have hyear : t.yearNumber.natAbs = digitsValue 0 t.year := by
    unfold DateText.yearNumber signed
    split <;> simp
  refine ⟨⟨t.yearNumber, digitsValue 0 t.month, digitsValue 0 t.day, hrange, hcalendar.month_range,
    hcalendar.day_range⟩, ?_⟩
  rw [written, hyear, hsign, hfilled.padded_eq (by decide),
    (Filled.of_length hcalendar.month_digits hcalendar.month_length).padded_eq (by decide),
    (Filled.of_length hcalendar.day_digits hcalendar.day_length).padded_eq (by decide)]

/-! ## Reading -/

theorem parts?_eq (cs : List Char) : parts? cs =
    match piecesBy (· == '-') (cutSign cs).2 with
    | [y, m, d] => do
      let y ← digits? y
      let m ← digits? m
      let d ← digits? d
      return (signed ((cutSign cs).1 == some true) y, m, d)
    | _ => none := by
  fun_cases cutSign cs
  · rfl
  · rfl
  · rename_i hminus hplus
    unfold parts?
    split
    rename_i negative body hsign
    split at hsign
    · exact absurd rfl (hminus _)
    · exact absurd rfl (hplus _)
    · cases hsign
      rfl

theorem parts?_chars {t : DateText} (h : t.InCalendar) (hyear : t.year ≠ []) :
    parts? t.chars = some (t.yearNumber, digitsValue 0 t.month, digitsValue 0 t.day) := by
  have hhyphen {ds : List Char} : (∀ c ∈ ds, isAsciiDigit c = true) → ∀ c ∈ ds, (c == '-') = false :=
    beq_eq_false_of_digits rfl
  have hmonth : t.month ≠ [] := List.ne_nil_of_length_pos (by rw [h.month_length]; decide)
  have hday : t.day ≠ [] := List.ne_nil_of_length_pos (by rw [h.day_length]; decide)
  rw [parts?_eq, DateText.cutSign_chars hyear h.year_digits]
  dsimp only
  rw [piecesBy_append (hhyphen h.year_digits) rfl, piecesBy_append (hhyphen h.month_digits) rfl,
    piecesBy_of_not (hhyphen h.day_digits)]
  simp [digits?_eq_some hyear h.year_digits, digits?_eq_some hmonth h.month_digits, digits?_eq_some hday h.day_digits,
    DateText.yearNumber]

/-- A date is read from what it is written as. -/
theorem parse?_text (d : Date) : parse? d.text = some d := by
  have hof : of? d.year d.month d.day = some d := by
    simp [of?, d.year_range, d.month_range, d.day_range]
  have hyear : d.written.year ≠ [] := (plain_or_signed d).elim (·.year_ne_nil) (·.year_ne_nil)
  have hparts := parts?_chars (inCalendar_written d) hyear
  have hmonth : digitsValue 0 d.written.month = d.month := digitsValue_padded 2 d.month
  have hday : digitsValue 0 d.written.day = d.day := digitsValue_padded 2 d.day
  rw [yearNumber_written, hmonth, hday] at hparts
  simp [parse?, toList_text, hparts, hof]

theorem parse?_isSome_iff {s : String} :
    (parse? s).isSome = true ↔ ∃ t : DateText, (t.Plain ∨ t.Signed) ∧ s.toList = t.chars := by
  constructor
  · intro h
    obtain ⟨d, hd⟩ := Option.isSome_iff_exists.1 h
    exact ⟨d.written, plain_or_signed d, by rw [← toList_text, text_of_parse hd]⟩
  · rintro ⟨t, ht, hs⟩
    obtain ⟨d, rfl⟩ := exists_written ht
    rw [← toList_text, String.toList_inj] at hs
    rw [hs, parse?_text]
    rfl

end Date

/-! ## Tests that read a text -/

/-- A test accepts the texts that can be read without their outer blanks. -/
structure ReadsTexts {α : Type} (test : Test) (read : String → Option α) (fault : Fault) : Prop where
  judgesEmpty : test.judgesEmpty = false
  judge (scope : Scope) (values : List String) (v : String) :
    Check.judge scope { test, values } (.text v) = Check.ofExcept (Check.reads read fault (.text v))
  empty : (read (trim "")).isSome = false
  mark : (read (trim emptyMark)).isSome = false

theorem ReadsTexts.accepted_iff {α : Type} {test : Test} {read : String → Option α} {fault : Fault}
    (h : ReadsTexts test read fault) (scope : Scope) (values : List String) (v : String) :
    (Evaluation.mk scope { test, values } (.text v)).run.value = .ok .accepted ↔ (read (trim v)).isSome = true := by
  have hrun : (Evaluation.mk scope { test, values } (.text v)).run.value =
      if isUnset v then .ok .empty else accept (read (trim v)).isSome fault := by
    rw [Evaluation.run, Validation.value_evaluate h.judgesEmpty, h.judge]
    rfl
  rw [hrun, Check.unset_or_accept_eq_iff (p := fun v => (read (trim v)).isSome) h.empty h.mark]

/-! ## The test of dates -/

/-- A text is a date of the calendar, with a year of four digits and two digits each for month and day. -/
def IsPlainDate (s : String) : Prop := ∃ t : DateText, t.Plain ∧ s.toList = t.chars

/-- A text is a date of the calendar with a signed year. -/
def IsSignedDate (s : String) : Prop := ∃ t : DateText, t.Signed ∧ s.toList = t.chars

theorem not_isSignedDate_of_isPlainDate {s : String} (h : IsPlainDate s) : ¬ IsSignedDate s := by
  obtain ⟨t, ht, hplain⟩ := h
  rintro ⟨u, hu, hsigned⟩
  have hsign : t.sign = u.sign := by
    have hcut := congrArg cutSign (hplain.symm.trans hsigned)
    rw [DateText.cutSign_chars ht.year_ne_nil ht.year_digits, DateText.cutSign_chars hu.year_ne_nil hu.year_digits] at hcut
    exact congrArg Prod.fst hcut
  have hsome := hu.sign
  rw [← hsign, ht.sign] at hsome
  cases hsome

/-- The test of dates. -/
def dateTest (values : List String) : Token := { test := .date, values }

theorem readsTexts_date : ReadsTexts .date Date.parse? .notDate := ⟨rfl, fun _ _ _ => rfl, by decide, by decide⟩

/-- The test of dates accepts the dates of the calendar with four digits for the year, and those with a signed year. It
is the test of the former just on the texts that are none of the latter. -/
theorem date_accepted_iff (scope : Scope) (values : List String) (v : String) :
    ((Evaluation.mk scope (dateTest values) (.text v)).run.value = .ok .accepted ↔
      IsPlainDate (trim v) ∨ IsSignedDate (trim v)) ∧
    (((Evaluation.mk scope (dateTest values) (.text v)).run.value = .ok .accepted ↔ IsPlainDate (trim v)) ↔
      ¬ IsSignedDate (trim v)) := by
  have hiff : (Evaluation.mk scope (dateTest values) (.text v)).run.value = .ok .accepted ↔
      IsPlainDate (trim v) ∨ IsSignedDate (trim v) := by
    have hparse : (Date.parse? (trim v)).isSome = true ↔ IsPlainDate (trim v) ∨ IsSignedDate (trim v) := by
      rw [Date.parse?_isSome_iff]
      simp only [IsPlainDate, IsSignedDate, or_and_right, exists_or]
    rw [← hparse, dateTest, readsTexts_date.accepted_iff]
  refine ⟨hiff, ?_⟩
  rw [hiff]
  have hdisjoint := not_isSignedDate_of_isPlainDate (s := trim v)
  tauto

/-- The first days of the years 10000 and -1 are accepted, though neither has the form that the fault asks for. -/
theorem signed_date_accepted :
    let scope : Scope := { collaborators := .mute }
    (Evaluation.mk scope (dateTest []) (.text "+10000-01-01")).run.value = .ok .accepted ∧
      ¬ IsPlainDate (trim "+10000-01-01") ∧
      (Evaluation.mk scope (dateTest []) (.text "-0001-01-01")).run.value = .ok .accepted ∧
      ¬ IsPlainDate (trim "-0001-01-01") := by
  intro scope
  have hafter : IsSignedDate (trim "+10000-01-01") := by
    refine ⟨⟨some false, ['1', '0', '0', '0', '0'], ['0', '1'], ['0', '1']⟩, ?_, by decide⟩
    exact { year_digits := List.all_eq_true.1 rfl, month_digits := List.all_eq_true.1 rfl,
            day_digits := List.all_eq_true.1 rfl, month_length := rfl, month_range := by decide, day_length := rfl,
            day_range := by decide, sign := rfl, year_length := by decide, year_head := by decide,
            year_outside := by decide, year_range := by decide }
  have hbefore : IsSignedDate (trim "-0001-01-01") := by
    refine ⟨⟨some true, ['0', '0', '0', '1'], ['0', '1'], ['0', '1']⟩, ?_, by decide⟩
    exact { year_digits := List.all_eq_true.1 rfl, month_digits := List.all_eq_true.1 rfl,
            day_digits := List.all_eq_true.1 rfl, month_length := rfl, month_range := by decide, day_length := rfl,
            day_range := by decide, sign := rfl, year_length := by decide, year_head := by decide,
            year_outside := by decide, year_range := by decide }
  exact ⟨by decide, fun hplain => not_isSignedDate_of_isPlainDate hplain hafter, by decide,
    fun hplain => not_isSignedDate_of_isPlainDate hplain hbefore⟩

end FieldRules
