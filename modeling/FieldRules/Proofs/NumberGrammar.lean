import FieldRules.Proofs.Kinds
import FieldRules.Proofs.Numerals
/-!
# How numbers are written

A number is written with a sign or none, digits with at most one point among them, and a power of ten or none. The test
of numbers and the reader of decimals read these parts alike (`isNumeric_eq`, `read?_eq`) and differ in what a digit
is: the test takes the digits of every script, the reader those of ASCII (`read?_isSome_iff_of_isNumeric`). Where a text
can be read, its parts are determined (`NumberText.ofChars?_eq_some_iff`).
-/

namespace FieldRules

open Text Unicode Binary64

/-! ## Signs -/

/-- How a sign is written, if there is one: is it a minus? -/
def signText : Option Bool → List Char
  | none => []
  | some true => ['-']
  | some false => ['+']

@[simp] theorem signText_none : signText none = [] := rfl

theorem signText_eq_nil_iff {sign : Option Bool} : signText sign = [] ↔ sign = none := by
  cases sign with
  | none => exact iff_of_true rfl rfl
  | some negative => cases negative <;> simp [signText]

theorem mem_signText {sign : Option Bool} {c : Char} (h : c ∈ signText sign) : c = '-' ∨ c = '+' := by
  match sign with
  | some true => exact .inl (List.mem_singleton.1 h)
  | some false => exact .inr (List.mem_singleton.1 h)

/-- The sign of a text, and what follows it. -/
def cutSign : List Char → Option Bool × List Char
  | '-' :: cs => (some true, cs)
  | '+' :: cs => (some false, cs)
  | cs => (none, cs)

theorem signText_cutSign (cs : List Char) : signText (cutSign cs).1 ++ (cutSign cs).2 = cs := by
  fun_cases cutSign cs <;> rfl

theorem cutSign_signText (sign : Option Bool) {cs : List Char} (h : ∀ c ∈ cs.head?, c ≠ '-' ∧ c ≠ '+') :
    cutSign (signText sign ++ cs) = (sign, cs) := by
  match sign with
  | some true => rfl
  | some false => rfl
  | none =>
    rw [signText, List.nil_append, cutSign]
    · rintro ds rfl
      exact (h '-' rfl).1 rfl
    · rintro ds rfl
      exact (h '+' rfl).2 rfl

theorem dropSign_eq (cs : List Char) : dropSign cs = (cutSign cs).2 := by
  fun_cases cutSign cs
  · rfl
  · rfl
  · rename_i hminus hplus
    rw [dropSign]
    · exact fun ds hds => hplus ds hds
    · exact fun ds hds => hminus ds hds

theorem Decimal.sign_eq (cs : List Char) : Decimal.sign cs = ((cutSign cs).1 == some true, (cutSign cs).2) := by
  fun_cases cutSign cs
  · rfl
  · rfl
  · rename_i hminus hplus
    rw [Decimal.sign]
    · rfl
    · exact fun ds hds => hminus ds hds
    · exact fun ds hds => hplus ds hds

/-! ## The parts of a number -/

/-- The signs among the digits of a number. -/
def numberSigns : List Char := ['+', '-', '.', 'e', 'E']

theorem not_decimalDigit_of_mem_numberSigns : ∀ c ∈ numberSigns, decimalDigit.has c = false := by
  have h : (numberSigns.all fun c => !decimalDigit.has c) = true := by decide
  exact fun c hc => by simpa using List.all_eq_true.1 h c hc

theorem not_isAsciiDigit_of_mem_numberSigns : ∀ c ∈ numberSigns, isAsciiDigit c = false := by
  have h : (numberSigns.all fun c => !isAsciiDigit c) = true := by decide
  exact fun c hc => by simpa using List.all_eq_true.1 h c hc

/-- The power of ten behind a number: `e`, a sign or none, and digits. -/
structure PowerText where
  capital : Bool := false
  sign : Option Bool := none
  digits : List Char := []
deriving DecidableEq

namespace PowerText

def chars (p : PowerText) : List Char := (if p.capital then 'E' else 'e') :: (signText p.sign ++ p.digits)

/-- The power that is written. -/
def value (p : PowerText) : Int := signed (p.sign == some true) (digitsValue 0 p.digits)

/-- There are digits, of a class. -/
structure WellFormed (digit : Char → Bool) (p : PowerText) : Prop where
  ne_nil : p.digits ≠ []
  digits : ∀ c ∈ p.digits, digit c = true

/-- The power of ten that a text is, or nothing. -/
def ofChars? (digit : Char → Bool) : List Char → Option (Option PowerText)
  | [] => some none
  | c :: cs =>
    if c = 'e' ∨ c = 'E' then
      let (sign, ds) := cutSign cs
      if ds.isEmpty || !ds.all digit then none else some (some { capital := c == 'E', sign, digits := ds })
    else none

end PowerText

/-- How a power of ten is written, if there is one. -/
def powerChars : Option PowerText → List Char
  | none => []
  | some p => p.chars

/-- How the digits behind a point are written, if there is a point. -/
def fractionChars : Option (List Char) → List Char
  | none => []
  | some ds => '.' :: ds

/-- The digits behind a point, and what follows them. -/
def cutFraction (digit : Char → Bool) : List Char → Option (List Char) × List Char
  | '.' :: cs => (some (cs.takeWhile digit), cs.dropWhile digit)
  | cs => (none, cs)

/-- The parts of a number. -/
structure NumberText where
  sign : Option Bool := none
  whole : List Char := []
  fraction : Option (List Char) := none
  power : Option PowerText := none

namespace NumberText

/-- The digits behind the point. -/
def decimals (n : NumberText) : List Char := n.fraction.getD []

def chars (n : NumberText) : List Char :=
  signText n.sign ++ (n.whole ++ (fractionChars n.fraction ++ powerChars n.power))

/-- The decimal number that is written. -/
def decimal (n : NumberText) : Decimal where
  negative := n.sign == some true
  digits := digitsValue 0 (n.whole ++ n.decimals)
  power := (n.power.map (·.value)).getD 0 - n.decimals.length

/-- There is a digit before the power of ten, and all digits are of a class. -/
structure WellFormed (digit : Char → Bool) (n : NumberText) : Prop where
  whole : ∀ c ∈ n.whole, digit c = true
  decimals : ∀ c ∈ n.decimals, digit c = true
  ne_nil : n.whole ++ n.decimals ≠ []
  power : ∀ p ∈ n.power, p.WellFormed digit

/-- The parts of the number that a text is, with digits of a class. -/
def ofChars? (digit : Char → Bool) (cs : List Char) : Option NumberText :=
  let (sign, body) := cutSign cs
  let whole := body.takeWhile digit
  let (fraction, rest) := cutFraction digit (body.dropWhile digit)
  if whole.isEmpty && (fraction.getD []).isEmpty then none
  else (PowerText.ofChars? digit rest).map fun power => { sign, whole, fraction, power }

end NumberText

/-! ## Reading the parts -/

section
variable {digit : Char → Bool}

theorem PowerText.ofChars?_sound {cs : List Char} {power : Option PowerText}
    (h : PowerText.ofChars? digit cs = some power) :
    cs = powerChars power ∧ ∀ p ∈ power, p.WellFormed digit := by
  match cs with
  | [] =>
    cases h
    exact ⟨rfl, fun p hp => by cases hp⟩
  | c :: cs =>
    rw [PowerText.ofChars?] at h
    split at h
    · rename_i hmark
      dsimp only at h
      split at h
      · cases h
      · rename_i hdigits
        cases h
        rw [Bool.or_eq_true, not_or, Bool.not_eq_true, List.isEmpty_eq_false_iff, Bool.not_eq_true',
          Bool.not_eq_false] at hdigits
        constructor
        · rw [powerChars, PowerText.chars, signText_cutSign]
          rcases hmark with rfl | rfl <;> rfl
        · rintro p ⟨⟩
          exact ⟨hdigits.1, List.all_eq_true.1 hdigits.2⟩
    · cases h

theorem cutFraction_sound (digit : Char → Bool) (cs : List Char) :
    fractionChars (cutFraction digit cs).1 ++ (cutFraction digit cs).2 = cs ∧
      ∀ c ∈ (cutFraction digit cs).1.getD [], digit c = true := by
  fun_cases cutFraction digit cs with
  | case1 cs =>
    refine ⟨?_, fun c hc => List.mem_takeWhile_imp hc⟩
    rw [fractionChars, List.cons_append, List.takeWhile_append_dropWhile]
  | case2 => exact ⟨rfl, fun c hc => by cases hc⟩

theorem NumberText.ofChars?_sound {cs : List Char} {n : NumberText} (h : ofChars? digit cs = some n) :
    n.WellFormed digit ∧ cs = n.chars := by
  unfold ofChars? at h
  dsimp only at h
  split at h
  · cases h
  · rename_i hne
    obtain ⟨power, hpower, rfl⟩ := Option.map_eq_some_iff.1 h
    obtain ⟨hrest, hwell⟩ := PowerText.ofChars?_sound hpower
    obtain ⟨hfraction, hdecimals⟩ := cutFraction_sound digit ((cutSign cs).2.dropWhile digit)
    constructor
    · exact {
        whole := fun c hc => List.mem_takeWhile_imp hc
        decimals := hdecimals
        ne_nil := fun hnil => hne (by simpa [NumberText.decimals] using hnil)
        power := hwell }
    · rw [chars, ← hrest, hfraction, List.takeWhile_append_dropWhile, signText_cutSign]

end

section
variable {digit : Char → Bool} (hsigns : ∀ c ∈ numberSigns, digit c = false)
include hsigns

theorem ne_of_digit {c sign : Char} (hsign : sign ∈ numberSigns) (hc : digit c = true) : c ≠ sign := by
  rintro rfl
  rw [hsigns c hsign] at hc
  cases hc

theorem cutSign_digits (sign : Option Bool) {ds : List Char} (hds : ∀ c ∈ ds, digit c = true) :
    cutSign (signText sign ++ ds) = (sign, ds) := by
  apply cutSign_signText
  intro c hc
  have hdigit := hds c (List.mem_of_head? hc)
  exact ⟨ne_of_digit hsigns (by decide) hdigit, ne_of_digit hsigns (by decide) hdigit⟩

theorem PowerText.ofChars?_powerChars {power : Option PowerText} (h : ∀ p ∈ power, p.WellFormed digit) :
    PowerText.ofChars? digit (powerChars power) = some power := by
  match power with
  | none => rfl
  | some ⟨capital, sign, ds⟩ =>
    have hp := h _ rfl
    have hempty : ds.isEmpty = false := List.isEmpty_eq_false_iff.2 hp.ne_nil
    have hall : ds.all digit = true := List.all_eq_true.2 hp.digits
    rw [powerChars, PowerText.chars, PowerText.ofChars?, cutSign_digits hsigns sign hp.digits]
    cases capital <;> simp [hempty, hall]

/-- A power of ten begins with no digit and no point. -/
theorem head_powerChars (power : Option PowerText) : ∀ c ∈ (powerChars power).head?, digit c = false ∧ c ≠ '.' := by
  intro c hc
  match power with
  | none => cases hc
  | some ⟨false, _, _⟩ =>
    obtain rfl : 'e' = c := Option.some.inj hc
    exact ⟨hsigns 'e' (by decide), by decide⟩
  | some ⟨true, _, _⟩ =>
    obtain rfl : 'E' = c := Option.some.inj hc
    exact ⟨hsigns 'E' (by decide), by decide⟩

theorem cutFraction_fractionChars {fraction : Option (List Char)} (h : ∀ c ∈ fraction.getD [], digit c = true)
    (power : Option PowerText) :
    cutFraction digit (fractionChars fraction ++ powerChars power) = (fraction, powerChars power) := by
  have hhead := head_powerChars hsigns power
  match fraction with
  | some ds =>
    have hstop := fun c hc => (hhead c hc).1
    have hds : ∀ c ∈ ds, digit c = true := h
    rw [fractionChars, List.cons_append, cutFraction, takeWhile_run hds hstop, dropWhile_run hds hstop]
  | none =>
    rw [fractionChars, List.nil_append, cutFraction]
    rintro cs hcs
    rw [hcs] at hhead
    exact (hhead '.' rfl).2 rfl

theorem head_fractionChars (fraction : Option (List Char)) (power : Option PowerText) :
    ∀ c ∈ (fractionChars fraction ++ powerChars power).head?, digit c = false := by
  intro c hc
  match fraction with
  | some ds =>
    cases hc
    exact hsigns '.' (by decide)
  | none => exact (head_powerChars hsigns power c hc).1

namespace NumberText

variable {n : NumberText} (h : n.WellFormed digit)
include h

/-- Behind the sign stands a digit or the point. -/
theorem head_whole : ∀ c ∈ (n.whole ++ (fractionChars n.fraction ++ powerChars n.power)).head?, c ≠ '-' ∧ c ≠ '+' := by
  intro c hc
  cases hwhole : n.whole with
  | cons d ds =>
    rw [hwhole] at hc
    cases hc
    have hdigit := h.whole c (hwhole ▸ .head _)
    exact ⟨ne_of_digit hsigns (by decide) hdigit, ne_of_digit hsigns (by decide) hdigit⟩
  | nil =>
    cases hfraction : n.fraction with
    | some ds =>
      rw [hwhole, hfraction] at hc
      cases hc
      exact ⟨by decide, by decide⟩
    | none => exact absurd (by rw [hwhole, decimals, hfraction]; rfl) h.ne_nil

theorem ofChars?_chars : ofChars? digit n.chars = some n := by
  have hstop := head_fractionChars hsigns n.fraction n.power
  have hne : ¬ (n.whole.isEmpty && (n.fraction.getD []).isEmpty) = true := by
    rw [Bool.and_eq_true, List.isEmpty_iff, List.isEmpty_iff, ← List.append_eq_nil_iff]
    exact h.ne_nil
  rw [ofChars?, chars, cutSign_signText n.sign (head_whole hsigns h)]
  dsimp only
  rw [takeWhile_run h.whole hstop, dropWhile_run h.whole hstop, cutFraction_fractionChars hsigns h.decimals]
  dsimp only
  rw [if_neg hne, PowerText.ofChars?_powerChars hsigns h.power]
  rfl

end NumberText

theorem NumberText.ofChars?_eq_some_iff {cs : List Char} {n : NumberText} :
    ofChars? digit cs = some n ↔ n.WellFormed digit ∧ cs = n.chars := by
  constructor
  · exact ofChars?_sound
  · rintro ⟨h, rfl⟩
    exact ofChars?_chars hsigns h

end

/-! ## The two readers -/

theorem isExponent_eq (cs : List Char) : isExponent cs = (PowerText.ofChars? decimalDigit.has cs).isSome := by
  match cs with
  | [] => rfl
  | c :: cs =>
    rw [isExponent, PowerText.ofChars?, dropSign_eq]
    dsimp only
    by_cases hmark : c = 'e' ∨ c = 'E'
    · have hbeq : (c == 'e' || c == 'E') = true := by simpa using hmark
      rw [if_pos hmark, hbeq, Bool.true_and]
      cases (cutSign cs).2.isEmpty <;> cases (cutSign cs).2.all decimalDigit.has <;> rfl
    · have hbeq : (c == 'e' || c == 'E') = false := by simpa using hmark
      rw [if_neg hmark, hbeq]
      rfl

theorem any_head?_eq (p : Char → Bool) (cs : List Char) : cs.head?.any p = !(cs.takeWhile p).isEmpty := by
  cases cs with
  | nil => rfl
  | cons c cs => cases hc : p c <;> simp [hc]

theorem isNumeric_eq (s : String) : isNumeric s = (NumberText.ofChars? decimalDigit.has s.toList).isSome := by
  unfold isNumeric NumberText.ofChars?
  dsimp only
  rw [dropSign_eq]
  generalize (cutSign s.toList).2.takeWhile decimalDigit.has = whole
  split
  · rename_i rest hrest
    rw [hrest, cutFraction, any_head?_eq, isExponent_eq]
    generalize rest.takeWhile decimalDigit.has = decimals
    cases whole.isEmpty <;> cases hdecimals : decimals.isEmpty <;> simp [hdecimals]
  · rename_i hpoint
    rw [cutFraction, isExponent_eq]
    · cases whole.isEmpty <;> simp
    · exact hpoint

theorem exponent?_eq (cs : List Char) : Decimal.exponent? cs =
    (PowerText.ofChars? isAsciiDigit cs).map fun power => (power.map (·.value)).getD 0 := by
  match cs with
  | [] => rfl
  | c :: cs =>
    rw [Decimal.exponent?, PowerText.ofChars?, Decimal.sign_eq]
    dsimp only
    by_cases hmark : c = 'e' ∨ c = 'E'
    · rw [if_pos hmark, if_pos hmark, digits?]
      by_cases hdigits : ((cutSign cs).2.isEmpty || !(cutSign cs).2.all isAsciiDigit) = true
      · simp only [if_pos hdigits]
        split <;> rfl
      · simp only [if_neg hdigits, Option.map_some, Option.getD_some, PowerText.value, signed]
        split <;> rfl
    · rw [if_neg hmark, if_neg hmark]
      rfl

theorem read?_eq (cs : List Char) : Decimal.read? cs = (NumberText.ofChars? isAsciiDigit cs).map (·.decimal) := by
  rw [Decimal.read?, Decimal.sign_eq]
  unfold Decimal.unsigned? NumberText.ofChars?
  dsimp only
  generalize (cutSign cs).2.takeWhile isAsciiDigit = whole
  split
  · rename_i ds hrest
    rw [hrest, cutFraction]
    dsimp only [Option.getD_some]
    split
    · rfl
    · rw [exponent?_eq, Option.map_map, Option.map_map]
      rfl
  · rename_i hpoint
    rw [cutFraction]
    · dsimp only [Option.getD_none]
      split
      · rfl
      · rw [exponent?_eq, Option.map_map, Option.map_map]
        rfl
    · exact hpoint

/-! ## Digits of ASCII -/

/-- All digits of a text, of whatever script, are ASCII digits. -/
def AsciiDigits (cs : List Char) : Prop := ∀ c ∈ cs, decimalDigit.has c = true → isAsciiDigit c = true

instance (cs : List Char) : Decidable (AsciiDigits cs) :=
  decidable_of_iff ((cs.all fun c => !decimalDigit.has c || isAsciiDigit c) = true) (by
    simp only [AsciiDigits, List.all_eq_true, Bool.or_eq_true, Bool.not_eq_true', imp_iff_not_or, Bool.not_eq_true])

namespace NumberText

variable {n : NumberText}

theorem mem_chars {digit : Char → Bool} (h : n.WellFormed digit) {c : Char} (hc : c ∈ n.chars) :
    digit c = true ∨ c ∈ numberSigns := by
  have hsigns : ∀ {sign : Option Bool}, c ∈ signText sign → c ∈ numberSigns := fun hsign => by
    rcases mem_signText hsign with rfl | rfl <;> decide
  rw [chars, List.mem_append, List.mem_append, List.mem_append] at hc
  rcases hc with hsign | hwhole | hfraction | hpower
  · exact .inr (hsigns hsign)
  · exact .inl (h.whole c hwhole)
  · match hn : n.fraction with
    | some ds =>
      rw [hn] at hfraction
      rcases List.mem_cons.1 hfraction with rfl | hd
      · exact .inr (by decide)
      · exact .inl (h.decimals c (by rwa [decimals, hn]))
    | none =>
      rw [hn] at hfraction
      cases hfraction
  · match hn : n.power with
    | some p =>
      rw [hn, powerChars, PowerText.chars, List.mem_cons, List.mem_append] at hpower
      rcases hpower with rfl | hsign | hd
      · right
        split <;> decide
      · exact .inr (hsigns hsign)
      · exact .inl ((h.power p hn).digits c hd)
    | none =>
      rw [hn] at hpower
      cases hpower

/-- What is well-formed with digits of one class is so with those of another, if its own digits are in both. -/
theorem WellFormed.mono {digit other : Char → Bool} (h : n.WellFormed digit)
    (himp : ∀ c ∈ n.chars, digit c = true → other c = true) : n.WellFormed other where
  whole c hc := himp c (by simp [chars, hc]) (h.whole c hc)
  decimals c hc := by
    refine himp c ?_ (h.decimals c hc)
    cases hn : n.fraction with
    | none => simp [NumberText.decimals, hn] at hc
    | some ds =>
      have hd : c ∈ ds := by simpa [NumberText.decimals, hn] using hc
      simp [chars, hn, fractionChars, hd]
  ne_nil := h.ne_nil
  power p hp := {
    ne_nil := (h.power p hp).ne_nil
    digits := fun c hc => himp c (by simp [chars, Option.mem_def.1 hp, powerChars, PowerText.chars, hc])
      ((h.power p hp).digits c hc) }

end NumberText

theorem isNumeric_iff {s : String} :
    isNumeric s = true ↔ ∃ n : NumberText, n.WellFormed decimalDigit.has ∧ s.toList = n.chars := by
  rw [isNumeric_eq, Option.isSome_iff_exists]
  simp only [NumberText.ofChars?_eq_some_iff not_decimalDigit_of_mem_numberSigns]

theorem read?_isSome_iff {cs : List Char} :
    (Decimal.read? cs).isSome = true ↔ ∃ n : NumberText, n.WellFormed isAsciiDigit ∧ cs = n.chars := by
  rw [read?_eq, Option.isSome_map, Option.isSome_iff_exists]
  simp only [NumberText.ofChars?_eq_some_iff not_isAsciiDigit_of_mem_numberSigns]

/-- A number can be read as a decimal just if all its digits are ASCII digits. -/
theorem read?_isSome_iff_of_isNumeric {s : String} (h : isNumeric s = true) :
    (Decimal.read? s.toList).isSome = true ↔ AsciiDigits s.toList := by
  rw [read?_isSome_iff]
  constructor
  · rintro ⟨n, hn, hs⟩ c hc hdigit
    rcases NumberText.mem_chars hn (hs ▸ hc) with hascii | hsign
    · exact hascii
    · rw [not_decimalDigit_of_mem_numberSigns c hsign] at hdigit
      cases hdigit
  · intro hascii
    obtain ⟨n, hn, hs⟩ := isNumeric_iff.1 h
    exact ⟨n, hn.mono (hs ▸ hascii), hs⟩

/-- A digit has no case, whatever its script. -/
theorem toLower_of_decimalDigit {c : Char} (h : decimalDigit.has c = true) : c.toLower = c := by
  have hapart : (decimalDigit.all fun r => Nat.blt r.2 65 || Nat.blt 90 r.1) = true := by decide
  obtain ⟨r, hr, hc⟩ := List.any_eq_true.1 h
  have hr := List.all_eq_true.1 hapart r hr
  simp only [Bool.or_eq_true, Nat.blt_eq, Bool.and_eq_true, decide_eq_true_eq] at hr hc
  unfold Char.toLower
  split
  · rename_i hupper
    have hrange : 65 ≤ c.toNat ∧ c.toNat ≤ 90 := hupper
    omega
  · rfl

/-- No number is one of the words that stand for a float: all of them have an `n`. -/
theorem binary64_read?_of_isNumeric {s : String} (h : isNumeric s = true) :
    Binary64.read? s = (Decimal.read? s.toList).map Decimal.toBinary64 := by
  obtain ⟨n, hn, hs⟩ := isNumeric_iff.1 h
  have hword : ∀ word : String, 'n' ∈ word.toList →
      String.ofList ((Decimal.sign s.toList).2.map Char.toLower) ≠ word := by
    rintro word hmem rfl
    rw [String.toList_ofList, Decimal.sign_eq, List.mem_map] at hmem
    obtain ⟨c, hc, hlower⟩ := hmem
    have hin : c ∈ n.chars := by
      rw [← hs, ← signText_cutSign s.toList]
      exact List.mem_append_right _ hc
    rcases NumberText.mem_chars hn hin with hdigit | hsign
    · rw [toLower_of_decimalDigit hdigit] at hlower
      rw [hlower] at hdigit
      exact absurd hdigit (by decide)
    · have hsigns : (numberSigns.all fun c => c.toLower != 'n') = true := by decide
      exact bne_iff_ne.1 (List.all_eq_true.1 hsigns c hsign) hlower
  have hinf := hword "inf" (by decide)
  have hinfinity := hword "infinity" (by decide)
  have hnan := hword "nan" (by decide)
  simp [Binary64.read?, hinf, hinfinity, hnan]

end FieldRules
