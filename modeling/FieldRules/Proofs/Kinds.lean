import FieldRules.Check.Comparison
import FieldRules.Proofs.Cells
import FieldRules.Proofs.Splitting
import Mathlib.Tactic.Tauto
/-!
# Kinds of values

What a text is read as is told by its signs (`Reading.ofSigns_eq`): only a number and a year can have the same ones. So
a text is read as one kind at most, or as a number and then as a year (`sniff_pairwise`).
-/

namespace FieldRules

open FieldRules.Text FieldRules.Unicode

/-! ## Digits and signs -/

/-- The signs that tell kinds apart. None of them is a digit of any script. -/
def markers : List Char := ['@', 'W', ':', 'T', ' ', 'e', 'E', '-']

theorem not_digit_of_mem_markers {c : Char} (h : c ∈ markers) : decimalDigit.has c = false := by
  have hall : markers.all (fun c => !decimalDigit.has c) = true := by decide +kernel
  simpa using List.all_eq_true.1 hall c h

/-- Digits, of any script, and signs of a list. -/
def DigitsAnd (signs cs : List Char) : Prop := ∀ c ∈ cs, decimalDigit.has c = true ∨ c ∈ signs

namespace DigitsAnd

variable {signs cs ds : List Char}

/-- The markers that are no signs of the text. -/
theorem absent (h : DigitsAnd signs cs) (others : List Char) (hothers : ∀ c ∈ others, c ∈ markers ∧ c ∉ signs) :
    ∀ c ∈ others, c ∉ cs := by
  intro c hc hin
  obtain ⟨hmarker, hsign⟩ := hothers c hc
  rcases h c hin with hdigit | hs
  · rw [not_digit_of_mem_markers hmarker] at hdigit
    cases hdigit
  · exact hsign hs

theorem count_eq_zero (h : DigitsAnd [] cs) {c : Char} (hc : c ∈ markers) : cs.count c = 0 :=
  List.count_eq_zero.2 (h.absent markers (fun _ hd => ⟨hd, List.not_mem_nil⟩) c hc)

theorem mono {more : List Char} (h : DigitsAnd signs cs) (hsub : signs ⊆ more) : DigitsAnd more cs := fun c hc =>
  (h c hc).imp_right (hsub ·)

theorem append (h : DigitsAnd signs cs) (h' : DigitsAnd signs ds) : DigitsAnd signs (cs ++ ds) := by
  intro c hc
  rcases List.mem_append.1 hc with hc | hc
  · exact h c hc
  · exact h' c hc

/-- Digits alone. -/
theorem of_digits (h : DigitsAnd [] cs) (signs : List Char) : DigitsAnd signs cs := h.mono (List.nil_subset _)

theorem cons {c : Char} (hc : c ∈ signs) (h : DigitsAnd signs cs) : DigitsAnd signs (c :: cs) := by
  intro d hd
  rcases List.mem_cons.1 hd with rfl | hd
  · exact .inr hc
  · exact h d hd

/-- Two parts with a sign between. -/
theorem between (h : DigitsAnd signs cs) {c : Char} (hc : c ∈ signs) (h' : DigitsAnd signs ds) :
    DigitsAnd signs (cs ++ c :: ds) := h.append (h'.cons hc)

end DigitsAnd

theorem Text.isAsciiDigit_of_digits? {cs : List Char} {n : Nat} (h : digits? cs = some n) :
    ∀ c ∈ cs, isAsciiDigit c = true := by
  unfold digits? at h
  split at h
  · cases h
  · rename_i hdigits
    rw [Bool.or_eq_true, not_or, Bool.not_eq_true', Bool.not_eq_false] at hdigits
    exact List.all_eq_true.1 hdigits.2

theorem digitsAnd_of_digits? {cs : List Char} {n : Nat} (h : digits? cs = some n) :
    DigitsAnd [] cs := fun c hc => .inl (decimalDigit_of_isAsciiDigit (isAsciiDigit_of_digits? h c hc))

theorem Text.isAsciiDigit_of_mem_padded {width n : Nat} {c : Char} (h : c ∈ padded width n) : isAsciiDigit c = true := by
  rcases List.mem_append.1 h with hzero | hdigit
  · rw [List.eq_of_mem_replicate hzero]
    rfl
  · exact isAsciiDigit_of_isDigit (Nat.isDigit_of_mem_toDigits (by decide) (by decide) hdigit)

theorem digitsAnd_padded (signs : List Char) (width n : Nat) : DigitsAnd signs (padded width n) :=
  fun _ hc => .inl (decimalDigit_of_isAsciiDigit (isAsciiDigit_of_mem_padded hc))

/-- Pieces with the separators between them are the whole text. -/
theorem Text.intercalate_piecesBy (sep : Char) (cs : List Char) : [sep].intercalate (piecesBy (· == sep) cs) = cs := by
  rw [piecesBy_eq_splitOnP]
  exact List.intercalate_splitOn sep

/-! ## The signs of each kind -/

namespace Reading

/-- How the texts of a kind are written. -/
def Written : Reading → List Char → Prop
  | .number, cs => DigitsAnd ['+', '-', '.', ',', 'e', 'E'] cs ∧ ('e' ∈ cs ∨ 'E' ∈ cs ∨ '-' ∉ cs.tail)
  | .timestamp, cs => '@' ∈ cs
  | .date, cs => DigitsAnd ['+', '-'] cs ∧ cs.tail.count '-' = 2
  | .dateTime, cs => DigitsAnd ['+', '-', ':', 'T', ' '] cs ∧ ':' ∈ cs ∧ ('T' ∈ cs ∨ ' ' ∈ cs)
  | .time, cs => DigitsAnd [':'] cs ∧ cs.count ':' = 1
  | .timeWithSeconds, cs => DigitsAnd [':'] cs ∧ cs.count ':' = 2
  | .week, cs => DigitsAnd ['-', 'W'] cs ∧ 'W' ∈ cs
  | .month, cs => DigitsAnd ['-'] cs ∧ cs.tail.count '-' = 1
  | .year, cs => DigitsAnd [] cs

/-- The kind that stands for all kinds with the same signs: a year looks like a number. -/
def family : Reading → Reading
  | .year => .number
  | r => r

/-- The kind that the signs of a text tell. Weeks and moments are told first, since they have hyphens like dates; and
numbers with an exponent, since it can have a hyphen. -/
def ofSigns (cs : List Char) : Reading :=
  if '@' ∈ cs then .timestamp
  else if 'W' ∈ cs then .week
  else if ':' ∈ cs then
    if 'T' ∈ cs ∨ ' ' ∈ cs then .dateTime else if cs.count ':' = 1 then .time else .timeWithSeconds
  else if 'e' ∈ cs ∨ 'E' ∈ cs then .number
  else match cs.tail.count '-' with
    | 0 => .number
    | 1 => .month
    | _ => .date

theorem ofSigns_eq {r : Reading} {cs : List Char} (h : r.Written cs) : ofSigns cs = r.family := by
  cases r with
  | number =>
    obtain ⟨hsigns, hexponent⟩ := h
    have habsent := hsigns.absent ['@', 'W', ':'] (by simp [markers])
    by_cases hin : 'e' ∈ cs ∨ 'E' ∈ cs
    · simp [ofSigns, habsent, hin, family]
    · have hhyphen : cs.tail.count '-' = 0 := List.count_eq_zero.2 (by tauto)
      simp [ofSigns, habsent, hin, hhyphen, family]
  | timestamp =>
    have hin : '@' ∈ cs := h
    simp [ofSigns, hin, family]
  | date =>
    obtain ⟨hsigns, hcount⟩ := h
    have habsent := hsigns.absent ['@', 'W', ':', 'e', 'E'] (by simp [markers])
    simp [ofSigns, habsent, hcount, family]
  | dateTime =>
    obtain ⟨hsigns, hin, hbetween⟩ := h
    have habsent := hsigns.absent ['@', 'W'] (by simp [markers])
    simp [ofSigns, habsent, hin, hbetween, family]
  | time =>
    obtain ⟨hsigns, hcount⟩ := h
    have habsent := hsigns.absent ['@', 'W', 'T', ' '] (by simp [markers])
    have hin : ':' ∈ cs := List.count_pos_iff.1 (by omega)
    simp [ofSigns, habsent, hin, hcount, family]
  | timeWithSeconds =>
    obtain ⟨hsigns, hcount⟩ := h
    have habsent := hsigns.absent ['@', 'W', 'T', ' '] (by simp [markers])
    have hin : ':' ∈ cs := List.count_pos_iff.1 (by omega)
    simp [ofSigns, habsent, hin, hcount, family]
  | week =>
    obtain ⟨hsigns, hin⟩ := h
    have habsent := hsigns.absent ['@'] (by simp [markers])
    simp [ofSigns, habsent, hin, family]
  | month =>
    obtain ⟨hsigns, hcount⟩ := h
    have habsent := hsigns.absent ['@', 'W', ':', 'e', 'E'] (by simp [markers])
    simp [ofSigns, habsent, hcount, family]
  | year =>
    have habsent := DigitsAnd.absent h ['@', 'W', ':', 'e', 'E', '-'] (by simp [markers])
    have hhyphen : cs.tail.count '-' = 0 := by
      apply List.count_eq_zero.2
      intro hin
      exact habsent '-' (by decide) (List.mem_of_mem_tail hin)
    simp [ofSigns, habsent, hhyphen, family]

end Reading

/-! ## How each kind is written -/

theorem dropSign_subset (cs : List Char) : dropSign cs ⊆ cs := by
  fun_cases dropSign cs
  · exact List.subset_cons_self _ _
  · exact List.subset_cons_self _ _
  · exact List.Subset.refl _

theorem tail_subset_dropSign (cs : List Char) : cs.tail ⊆ dropSign cs := by
  fun_cases dropSign cs
  · exact List.Subset.refl _
  · exact List.Subset.refl _
  · exact List.tail_subset _

theorem DigitsAnd.of_dropSign {signs cs : List Char} (h : DigitsAnd signs (dropSign cs)) (hplus : '+' ∈ signs)
    (hminus : '-' ∈ signs) : DigitsAnd signs cs := by
  revert h
  fun_cases dropSign cs
  · exact fun h => h.cons hplus
  · exact fun h => h.cons hminus
  · exact id

/-- A plain number has digits with a point among them or none, then nothing or an exponent. -/
theorem isNumeric_parts {s : String} (h : isNumeric s = true) : ∃ mantissa exponent,
    dropSign s.toList = mantissa ++ exponent ∧ DigitsAnd ['.'] mantissa ∧ isExponent exponent = true := by
  have hrun : ∀ cs : List Char, DigitsAnd ['.'] (cs.takeWhile decimalDigit.has) := fun cs c hc =>
    .inl (List.mem_takeWhile_imp hc)
  have hsplit := List.takeWhile_append_dropWhile (p := decimalDigit.has) (l := dropSign s.toList)
  unfold isNumeric at h
  dsimp only at h
  split at h
  · rename_i rest hrest
    rw [Bool.and_eq_true] at h
    refine ⟨(dropSign s.toList).takeWhile decimalDigit.has ++ '.' :: rest.takeWhile decimalDigit.has,
      rest.dropWhile decimalDigit.has, ?_, (hrun _).between (by decide) (hrun _), h.2⟩
    rw [List.append_assoc, List.cons_append, List.takeWhile_append_dropWhile, ← hrest, hsplit]
  · rw [Bool.and_eq_true] at h
    exact ⟨_, _, hsplit.symm, hrun _, h.2⟩

theorem isExponent_cases {cs : List Char} (h : isExponent cs = true) :
    cs = [] ∨ DigitsAnd ['+', '-', 'e', 'E'] cs ∧ ('e' ∈ cs ∨ 'E' ∈ cs) := by
  match cs with
  | [] => exact .inl rfl
  | c :: cs =>
    right
    rw [isExponent, Bool.and_eq_true, Bool.and_eq_true, Bool.or_eq_true, beq_iff_eq, beq_iff_eq] at h
    obtain ⟨⟨hc, -⟩, hdigits⟩ := h
    have hrest : DigitsAnd ['+', '-', 'e', 'E'] (dropSign cs) := fun d hd => .inl (List.all_eq_true.1 hdigits d hd)
    constructor
    · refine (hrest.of_dropSign (by decide) (by decide)).cons ?_
      rcases hc with rfl | rfl <;> decide
    · rcases hc with rfl | rfl
      · exact .inl (.head _)
      · exact .inr (.head _)

theorem written_isNumeric {s : String} (h : isNumeric s = true) : Reading.number.Written s.toList := by
  obtain ⟨mantissa, exponent, hparts, hmantissa, hexponent⟩ := isNumeric_parts h
  have hbody : DigitsAnd ['+', '-', '.', ',', 'e', 'E'] (dropSign s.toList) := by
    rw [hparts]
    refine (hmantissa.mono (by decide)).append ?_
    rcases isExponent_cases hexponent with rfl | ⟨hsigns, -⟩
    · exact fun c hc => absurd hc List.not_mem_nil
    · exact hsigns.mono (by decide)
  refine ⟨hbody.of_dropSign (by decide) (by decide), ?_⟩
  rcases isExponent_cases hexponent with rfl | ⟨-, hin⟩
  · right; right
    intro hhyphen
    have hin := tail_subset_dropSign s.toList hhyphen
    rw [hparts, List.append_nil] at hin
    exact hmantissa.absent ['-'] (by simp [markers]) '-' (by decide) hin
  · have hsub : exponent ⊆ s.toList := fun c hc => dropSign_subset _ (hparts ▸ List.mem_append_right _ hc)
    exact hin.imp (hsub ·) fun hlarge => .inl (hsub hlarge)

/-- Before the sign of the exponent a number has a hyphen at its start only, with a decimal comma as with a point. -/
theorem written_normalizeDecimal {s : String} (htrim : trim s = s)
    (h : Reading.number.Written (normalizeDecimal s).toList) : Reading.number.Written s.toList := by
  have hchars : trimChars s.toList = s.toList := by rw [← toList_trim, htrim]
  simp only [normalizeDecimal, hchars] at h
  split at h
  · rw [String.toList_ofList] at h
    obtain ⟨hsigns, hexponent⟩ := h
    have hkept : ∀ {c d : Char}, (if c == ',' then '.' else c) = d → d ≠ '.' → c = d := by
      intro c d heq hd
      split at heq
      · exact absurd heq.symm hd
      · exact heq
    have hback : ∀ {d : Char}, d ≠ '.' → d ∈ s.toList.map (fun c => if c == ',' then '.' else c) → d ∈ s.toList := by
      intro d hd hin
      obtain ⟨c, hc, heq⟩ := List.mem_map.1 hin
      exact hkept heq hd ▸ hc
    refine ⟨fun c hc => ?_, ?_⟩
    · have hmapped := hsigns _ (List.mem_map_of_mem hc)
      split at hmapped
      · rename_i hcomma
        rw [eq_of_beq hcomma]
        exact .inr (by decide)
      · exact hmapped
    · refine hexponent.imp (hback (by decide)) (Or.imp (hback (by decide)) fun hhyphen hin => hhyphen ?_)
      rw [← List.map_tail]
      exact List.mem_map.2 ⟨'-', hin, rfl⟩
  · rwa [String.toList_ofList] at h

theorem yearText_cons (y : Int) : ∃ c cs, Date.yearText y = c :: cs ∧ DigitsAnd ['+', '-'] [c] ∧ DigitsAnd [] cs := by
  have hpadded : ∀ n, ∃ c cs, padded 4 n = c :: cs ∧ DigitsAnd ['+', '-'] [c] ∧ DigitsAnd [] cs := by
    intro n
    have hne : padded 4 n ≠ [] := by simp [padded, Nat.toDigits_ne_nil]
    obtain ⟨c, cs, hcons⟩ := List.exists_cons_of_ne_nil hne
    have hsigns := digitsAnd_padded ['+', '-'] 4 n
    have hdigits := digitsAnd_padded [] 4 n
    rw [hcons] at hsigns hdigits
    exact ⟨c, cs, hcons, fun d hd => hsigns d (by simp_all), fun d hd => hdigits d (.tail _ hd)⟩
  unfold Date.yearText
  split
  · exact hpadded _
  · refine ⟨_, _, rfl, ?_, digitsAnd_padded _ _ _⟩
    split <;> exact DigitsAnd.cons (by decide) fun c hc => absurd hc List.not_mem_nil

theorem written_date (d : Date) : Reading.date.Written d.text.toList := by
  have hmarker : '-' ∈ markers := by decide
  obtain ⟨c, cs, hyear, hfirst, hcs⟩ := yearText_cons d.year
  have htext : d.text.toList = [c] ++ (cs ++ '-' :: (padded 2 d.month ++ '-' :: padded 2 d.day)) := by
    rw [Date.text, String.toList_ofList, hyear]
    simp
  rw [htext]
  constructor
  · have hmonth := digitsAnd_padded ['+', '-'] 2 d.month
    have hday := digitsAnd_padded ['+', '-'] 2 d.day
    exact hfirst.append ((hcs.of_digits _).between (by decide) (hmonth.between (by decide) hday))
  · simp [List.count_append, hcs.count_eq_zero hmarker, (digitsAnd_padded [] _ _).count_eq_zero hmarker]

theorem digitsAnd_twoDigits? {cs : List Char} {n : Nat} (h : Clock.twoDigits? cs = some n) : DigitsAnd [] cs := by
  unfold Clock.twoDigits? at h
  split at h
  · exact digitsAnd_of_digits? h
  · cases h

theorem written_clock {withSeconds : Bool} {s : String} {c : Clock} (h : Clock.parse? withSeconds s = some c) :
    DigitsAnd [':'] s.toList ∧ s.toList.count ':' = if withSeconds then 2 else 1 := by
  have hmarker : ':' ∈ markers := by decide
  have hwhole := intercalate_piecesBy ':' s.toList
  unfold Clock.parse? at h
  split at h
  · rename_i hour minute hpieces
    simp only [Option.bind_eq_bind, Option.bind_eq_some_iff] at h
    obtain ⟨_, hhour, _, hminute, -⟩ := h
    have hh := digitsAnd_twoDigits? hhour
    have hm := digitsAnd_twoDigits? hminute
    have hs : s.toList = hour ++ ':' :: minute := by
      rw [← hwhole, hpieces]
      simp
    rw [hs]
    constructor
    · exact (hh.of_digits _).between (by decide) (hm.of_digits _)
    · simp [List.count_append, hh.count_eq_zero hmarker, hm.count_eq_zero hmarker]
  · rename_i hour minute second hpieces
    simp only [Option.bind_eq_bind, Option.bind_eq_some_iff] at h
    obtain ⟨_, hhour, _, hminute, _, hsecond, -⟩ := h
    have hh := digitsAnd_twoDigits? hhour
    have hm := digitsAnd_twoDigits? hminute
    have hsec := digitsAnd_twoDigits? hsecond
    have hs : s.toList = hour ++ ':' :: (minute ++ ':' :: second) := by
      rw [← hwhole, hpieces]
      simp
    rw [hs]
    constructor
    · exact (hh.of_digits _).between (by decide) ((hm.of_digits _).between (by decide) (hsec.of_digits _))
    · simp [List.count_append, hh.count_eq_zero hmarker, hm.count_eq_zero hmarker, hsec.count_eq_zero hmarker]
  · cases h

theorem written_moment {s : String} {m : Moment} (h : Moment.parse? Moment.comparableShapes s = some m) :
    Reading.dateTime.Written s.toList := by
  obtain ⟨shape, hshape, h⟩ := List.exists_of_findSome?_eq_some h
  simp only [Moment.parseAs?, Option.bind_eq_bind, Option.bind_eq_some_iff] at h
  obtain ⟨⟨date, clock⟩, hcut, d, hdate, c, hclock, -⟩ := h
  have hs := eq_append_of_cutOnce hcut
  dsimp only at hs
  have hseparator : shape.separator ∈ ['T', ' '] := by
    simp only [Moment.comparableShapes, List.mem_cons, List.not_mem_nil, or_false] at hshape
    rcases hshape with rfl | rfl | rfl | rfl <;> decide
  obtain ⟨hdateSigns, -⟩ := Date.text_of_parse hdate ▸ written_date d
  obtain ⟨hclockSigns, hcount⟩ := written_clock hclock
  have hcolon : ':' ∈ clock.toList := by
    apply List.count_pos_iff.1
    rw [hcount]
    split <;> decide
  rw [hs]
  refine ⟨?_, List.mem_append_right _ (.tail _ hcolon), ?_⟩
  · have hsign : shape.separator ∈ ['+', '-', ':', 'T', ' '] := by
      simp only [List.mem_cons, List.not_mem_nil, or_false] at hseparator ⊢
      tauto
    exact (hdateSigns.mono (by decide)).between hsign (hclockSigns.mono (by decide))
  · simp only [List.mem_cons, List.not_mem_nil, or_false] at hseparator
    rcases hseparator with heq | heq <;> simp [heq]

theorem digitsOf?_eq_some {n k : Nat} {cs : List Char} (h : Period.digitsOf? n cs = some k) :
    cs.length = n ∧ DigitsAnd [] cs := by
  unfold Period.digitsOf? at h
  split at h
  · rename_i hlength
    exact ⟨hlength, digitsAnd_of_digits? h⟩
  · cases h

theorem written_week {s : String} {d : Date} (h : Period.parseWeek? s = some d) : Reading.week.Written s.toList := by
  have hwhole := intercalate_piecesBy '-' s.toList
  unfold Period.parseWeek? at h
  split at h
  · rename_i year week hpieces
    simp only [Option.bind_eq_bind, Option.bind_eq_some_iff] at h
    obtain ⟨_, hyear, _, hweek, -⟩ := h
    have hs : s.toList = year ++ '-' :: 'W' :: week := by
      rw [← hwhole, hpieces]
      simp
    rw [hs]
    constructor
    · obtain ⟨-, hy⟩ := digitsOf?_eq_some hyear
      obtain ⟨-, hw⟩ := digitsOf?_eq_some hweek
      exact (hy.of_digits _).between (by decide) ((hw.of_digits _).cons (by decide))
    · simp
  · cases h

theorem written_month {s : String} {d : Date} (h : Period.parseMonth? s = some d) : Reading.month.Written s.toList := by
  have hmarker : '-' ∈ markers := by decide
  have hwhole := intercalate_piecesBy '-' s.toList
  unfold Period.parseMonth? at h
  split at h
  · rename_i year month hpieces
    simp only [Option.bind_eq_bind, Option.bind_eq_some_iff] at h
    obtain ⟨_, hyear, _, hmonth, -⟩ := h
    obtain ⟨hlength, hy⟩ := digitsOf?_eq_some hyear
    obtain ⟨-, hm⟩ := digitsOf?_eq_some hmonth
    have hs : s.toList = year ++ '-' :: month := by
      rw [← hwhole, hpieces]
      simp
    obtain ⟨c, cs, rfl⟩ := List.exists_cons_of_length_pos (hlength ▸ (by decide : 0 < 4))
    have hcs : DigitsAnd [] cs := fun d hd => hy d (.tail _ hd)
    rw [hs]
    constructor
    · exact (hy.of_digits _).between (by decide) (hm.of_digits _)
    · simp [List.count_append, hcs.count_eq_zero hmarker, hm.count_eq_zero hmarker]
  · cases h

/-- A text is written as the kind demands that it is read as. -/
theorem written_of_scalar? {s : String} (htrim : trim s = s) {r : Reading} {x : Binary64} (h : scalar? s r = some x) :
    r.Written s.toList := by
  cases r with
  | number =>
    simp only [scalar?] at h
    split at h
    · rename_i hnumeric
      exact written_normalizeDecimal htrim (written_isNumeric hnumeric)
    · cases h
  | timestamp =>
    obtain ⟨_, hseconds, -⟩ := Option.map_eq_some_iff.1 h
    obtain ⟨_, hstart, -⟩ := Option.bind_eq_some_iff.1 hseconds
    have hs := afterStart_eq_some hstart
    show '@' ∈ s.toList
    rw [hs]
    exact .head _
  | date =>
    obtain ⟨d, hparse, -⟩ := Option.map_eq_some_iff.1 h
    exact Date.text_of_parse hparse ▸ written_date d
  | dateTime =>
    obtain ⟨m, hparse, -⟩ := Option.map_eq_some_iff.1 h
    exact written_moment hparse
  | time =>
    obtain ⟨c, hparse, -⟩ := Option.map_eq_some_iff.1 h
    exact written_clock hparse
  | timeWithSeconds =>
    obtain ⟨c, hparse, -⟩ := Option.map_eq_some_iff.1 h
    exact written_clock hparse
  | week =>
    obtain ⟨d, hparse, -⟩ := Option.map_eq_some_iff.1 h
    exact written_week hparse
  | month =>
    obtain ⟨d, hparse, -⟩ := Option.map_eq_some_iff.1 h
    exact written_month hparse
  | year =>
    obtain ⟨d, hparse, -⟩ := Option.map_eq_some_iff.1 h
    obtain ⟨_, hdigits, -⟩ := Option.bind_eq_some_iff.1 hparse
    exact (digitsOf?_eq_some hdigits).2

/-! ## The kinds of one text -/

/-- A text that is read as two kinds is a number and then a year. -/
theorem sniff_pairwise (s : String) :
    (sniff s).Pairwise fun v w => v.reading = .number ∧ w.reading = .year := by
  have hfamily : ∀ {r x}, scalar? (trim s) r = some x → r.family = Reading.ofSigns (trim s).toList := fun h =>
    (Reading.ofSigns_eq (written_of_scalar? (trim_trim s) h)).symm
  have horder : readings.Pairwise fun r q => r.family = q.family → r = .number ∧ q = .year := by decide
  refine List.pairwise_filterMap.2 (horder.imp ?_)
  intro r q htwo v hv w hw
  obtain ⟨x, hx, rfl⟩ := Option.map_eq_some_iff.1 hv
  obtain ⟨y, hy, rfl⟩ := Option.map_eq_some_iff.1 hw
  exact htwo ((hfamily hx).trans (hfamily hy).symm)

end FieldRules
