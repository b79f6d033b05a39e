import FieldRules.Proofs.Membership
import FieldRules.Proofs.Nearest
/-!
# Integers in decimal

A numeral writes an integer with digits and a sign or none. It is a number as it stands (`normalizeDecimal_text`,
`isNumeric_text`), and its value is rounded to the nearest number of 53 bits (`read?_text`). So the test of numbers and
the conversion to integers give the integer back if it fits 53 bits, and another one beside it if not; and it is this
other one that is compared with the range of 64 bits (`integer_converted`).
-/

namespace FieldRules

open FieldRules.Text FieldRules.Binary64

theorem Text.toLower_of_isAsciiDigit {c : Char} (h : isAsciiDigit c = true) : c.toLower = c := by
  have hc := (isAsciiDigit_iff.1 h).2
  unfold Char.toLower
  split
  · rename_i hupper
    have hrange : 65 ≤ c.toNat := hupper.1
    omega
  · rfl

/-- Digits, with a sign before them or none. -/
structure Numeral where
  /-- Is there a sign, and is it a minus? -/
  sign : Option Bool := none
  digits : List Char
  ne_nil : digits ≠ []
  ascii : ∀ c ∈ digits, isAsciiDigit c = true

namespace Numeral

def signChars (s : Numeral) : List Char :=
  match s.sign with
  | none => []
  | some true => ['-']
  | some false => ['+']

def text (s : Numeral) : String := String.ofList (s.signChars ++ s.digits)

def negative (s : Numeral) : Bool := s.sign == some true

/-- The whole number that the digits write. -/
def size (s : Numeral) : Nat := digitsValue 0 s.digits

/-- The integer that the numeral writes. -/
def value (s : Numeral) : Int := signed s.negative s.size

variable (s : Numeral)

/-! ## The signs of a numeral -/

theorem exists_cons : ∃ d ds, s.digits = d :: ds ∧ isAsciiDigit d = true := by
  obtain ⟨d, ds, hcons⟩ := List.exists_cons_of_ne_nil s.ne_nil
  refine ⟨d, ds, hcons, s.ascii d ?_⟩
  rw [hcons]
  exact .head _

theorem mem_text {c : Char} (h : c ∈ s.text.toList) : c = '-' ∨ c = '+' ∨ isAsciiDigit c = true := by
  rw [text, String.toList_ofList] at h
  rcases List.mem_append.1 h with hsign | hdigit
  · unfold signChars at hsign
    split at hsign <;> simp_all
  · exact .inr (.inr (s.ascii c hdigit))

theorem not_mem_text {c : Char} (hminus : c ≠ '-') (hplus : c ≠ '+') (hdigit : isAsciiDigit c = false) :
    c ∉ s.text.toList := by
  intro h
  rcases s.mem_text h with rfl | rfl | hd
  · exact hminus rfl
  · exact hplus rfl
  · rw [hdigit] at hd
    cases hd

theorem not_isBlank_of_mem_text {c : Char} (h : c ∈ s.text.toList) : isBlank c = false := by
  rcases s.mem_text h with rfl | rfl | hd
  · rfl
  · rfl
  · exact not_isBlank_of_isAsciiDigit hd

theorem trim_text : trim s.text = s.text := trim_eq_self_iff.2 {
  first := fun _ hc => s.not_isBlank_of_mem_text (List.mem_of_head? hc)
  last := fun _ hc => s.not_isBlank_of_mem_text (List.mem_of_getLast? hc) }

theorem text_ne_empty : s.text ≠ "" := by
  obtain ⟨d, ds, hcons, -⟩ := s.exists_cons
  intro h
  have hlist := congrArg String.toList h
  simp [text, hcons] at hlist

theorem text_ne {x : String} {c : Char} (hc : c ∈ x.toList) (hminus : c ≠ '-') (hplus : c ≠ '+')
    (hdigit : isAsciiDigit c = false) : s.text ≠ x := by
  rintro rfl
  exact s.not_mem_text hminus hplus hdigit hc

theorem text_ne_emptyMark : s.text ≠ emptyMark := s.text_ne (c := '_') (by decide) (by decide) (by decide) (by decide)

theorem isUnset_text : isUnset s.text = false := by simp [isUnset, s.text_ne_empty, s.text_ne_emptyMark]

theorem isBlankText_text : isBlankText s.text = false := by
  have hplaceholder : s.text ≠ emptyPlaceholder :=
    s.text_ne (c := '[') (by decide) (by decide) (by decide) (by decide)
  simp [isBlankText, s.trim_text, s.text_ne_empty, s.text_ne_emptyMark, hplaceholder]

/-! ## Reading a numeral -/

theorem normalizeDecimal_text : normalizeDecimal s.text = s.text := by
  have hcomma : s.text.toList.count ',' = 0 :=
    List.count_eq_zero.2 (s.not_mem_text (by decide) (by decide) (by decide))
  have htrim : trimChars s.text.toList = s.text.toList := by rw [← toList_trim, s.trim_text]
  simp [normalizeDecimal, htrim, hcomma]

theorem dropSign_text : dropSign s.text.toList = s.digits := by
  obtain ⟨d, ds, hcons, hd⟩ := s.exists_cons
  rw [text, String.toList_ofList, signChars]
  split
  · rw [List.nil_append, hcons, dropSign]
    · rintro cs ⟨rfl, -⟩
      cases hd
    · rintro cs ⟨rfl, -⟩
      cases hd
  · rfl
  · rfl

theorem sign_text : Decimal.sign s.text.toList = (s.negative, s.digits) := by
  obtain ⟨d, ds, hcons, hd⟩ := s.exists_cons
  rw [text, String.toList_ofList, signChars, negative]
  split
  · rename_i hsign
    rw [List.nil_append, hcons, Decimal.sign, hsign]
    · rfl
    · rintro cs ⟨rfl, -⟩
      cases hd
    · rintro cs ⟨rfl, -⟩
      cases hd
  · rename_i hsign
    rw [hsign]
    rfl
  · rename_i hsign
    rw [hsign]
    rfl

theorem isNumeric_text : isNumeric s.text = true := by
  have hdecimal : ∀ c ∈ s.digits, Unicode.decimalDigit.has c = true := fun c hc =>
    decimalDigit_of_isAsciiDigit (s.ascii c hc)
  have htake : s.digits.takeWhile Unicode.decimalDigit.has = s.digits := List.takeWhile_eq_self_iff.2 hdecimal
  have hdrop : s.digits.dropWhile Unicode.decimalDigit.has = [] := List.dropWhile_eq_nil_iff.2 hdecimal
  simp [isNumeric, s.dropSign_text, htake, hdrop, s.ne_nil, isExponent]

theorem decimal_text : Decimal.read? s.text.toList = some { negative := s.negative, digits := s.size, power := 0 } := by
  have htake : s.digits.takeWhile isAsciiDigit = s.digits := List.takeWhile_eq_self_iff.2 s.ascii
  have hdrop : s.digits.dropWhile isAsciiDigit = [] := List.dropWhile_eq_nil_iff.2 s.ascii
  simp [Decimal.read?, s.sign_text, Decimal.unsigned?, htake, hdrop, s.ne_nil, Decimal.exponent?, size]

/-- The number that a decimal is read as; no decimal is too long for it. -/
theorem readsWhole_toBinary64 (negative : Bool) (n : Nat) :
    ReadsWhole ({ negative, digits := n, power := 0 } : Decimal).toBinary64 negative (nearest n) := by
  have hratio := ofRatio_one negative n
  simp only [Decimal.toBinary64]
  split
  · rename_i hzero
    subst hzero
    have hzero : ofRatio negative 0 1 = zero negative := rfl
    rwa [hzero] at hratio
  · split
    · -- What has more than 310 digits lies beyond the format.
      rename_i hlong
      refine .inr ⟨rfl, ?_⟩
      have hdigits : ¬ (Nat.toDigits 10 n).length ≤ 310 := by omega
      rw [Nat.length_toDigits_le_iff (by decide) (by decide), Nat.not_lt] at hdigits
      have hbeyond : beyond ≤ n := Nat.le_trans (by decide +kernel) hdigits
      have hfits : nearest beyond = beyond := nearest_eq_self_iff.2 (fitsMantissa_two_pow _)
      rw [← hfits]
      exact nearest_mono hbeyond
    · rename_i hlong
      have hpositive := Nat.length_toDigits_pos (b := 10) (n := n)
      rw [if_neg (by omega)]
      have hone : decimalRatio n 0 = (n, 1) := by simp [decimalRatio, tenTo]
      rw [hone]
      exact hratio

theorem read?_text : ∃ x, Binary64.read? s.text = some x ∧ ReadsWhole x s.negative (nearest s.size) := by
  obtain ⟨d, ds, hcons, hd⟩ := s.exists_cons
  -- No digit begins a word.
  have hword : ∀ word ∈ ["inf", "infinity", "nan"], String.ofList (s.digits.map Char.toLower) ≠ word := by
    intro word hmem h
    have hlist := congrArg String.toList h
    rw [String.toList_ofList, hcons, List.map_cons, toLower_of_isAsciiDigit hd] at hlist
    simp only [List.mem_cons, List.not_mem_nil, or_false] at hmem
    rcases hmem with rfl | rfl | rfl
    all_goals
      obtain ⟨rfl, -⟩ := List.cons_eq_cons.1 hlist
      cases hd
  refine ⟨_, ?_, readsWhole_toBinary64 s.negative s.size⟩
  have hinf := hword "inf" (by simp)
  have hinfinity := hword "infinity" (by simp)
  have hnan := hword "nan" (by simp)
  simp [Binary64.read?, s.sign_text, hinf, hinfinity, hnan, s.decimal_text]

/-! ## The numerals that are written -/

/-- The numeral of an integer as it is written: no zeros before it, and no sign but a minus. -/
def ofInt (n : Int) : Numeral where
  sign := if n < 0 then some true else none
  digits := Nat.toDigits 10 n.natAbs
  ne_nil := Nat.toDigits_ne_nil
  ascii c hc := isAsciiDigit_of_isDigit (Nat.isDigit_of_mem_toDigits (by decide) (by decide) hc)

theorem text_ofInt (n : Int) : (ofInt n).text = showInt n := by
  cases n with
  | ofNat n =>
    have hsign : ¬ ((n : Int) < 0) := Int.not_lt.2 (Int.natCast_nonneg n)
    simp [text, ofInt, signChars, showInt, showNat, hsign]
  | negSucc n => simp [text, ofInt, signChars, showInt, showNat]

theorem size_ofInt (n : Int) : (ofInt n).size = n.natAbs := Nat.ofDigitChars_toDigits (by decide) (by decide)

theorem negative_ofInt (n : Int) : (ofInt n).negative = decide (n < 0) := by
  by_cases h : n < 0 <;> simp [negative, ofInt, h]

theorem value_ofInt (n : Int) : (ofInt n).value = n := by
  rw [value, size_ofInt, negative_ofInt]
  by_cases h : n < 0 <;> simp only [signed, h, decide_true, decide_false, if_true, Bool.false_eq_true, if_false] <;> omega

end Numeral

/-! ## The range of 64 bits -/

/-- The integers of 64 bits with sign. -/
def InRange64 (n : Int) : Prop := -(bound63 : Int) ≤ n ∧ n < bound63

instance (n : Int) : Decidable (InRange64 n) := inferInstanceAs (Decidable (_ ∧ _))

theorem int64?_eq (s : String) : int64? s =
    ((digits? (Decimal.sign s.toList).2).filter fun n => InRange64 (signed (Decimal.sign s.toList).1 n)).map
      (signed (Decimal.sign s.toList).1) := by
  have hnegative : (fun n => decide (InRange64 (signed true n))) = fun n => decide (n ≤ bound63) := by
    have hpositive : 0 < bound63 := by decide
    funext n
    rw [decide_eq_decide]
    simp only [InRange64, signed, if_true]
    omega
  have hunsigned : (fun n => decide (InRange64 (signed false n))) = fun n => decide (n < bound63) := by
    funext n
    rw [decide_eq_decide]
    simp only [InRange64, signed, Bool.false_eq_true, if_false]
    omega
  rw [int64?]
  split
  · rename_i cs hcs
    rw [hcs, Decimal.sign, hnegative]
    cases (digits? cs).filter (· ≤ bound63) <;> rfl
  · rename_i cs hcs
    rw [hcs, Decimal.sign, hunsigned]
    cases (digits? cs).filter (· < bound63) <;> rfl
  · rename_i hminus hplus
    rw [Decimal.sign, hunsigned]
    · cases (digits? s.toList).filter (· < bound63) <;> rfl
    · exact hminus
    · exact hplus

/-- Where the digits of a numeral are read one by one, it is read exactly. -/
theorem Numeral.int64?_text (s : Numeral) : int64? s.text = if InRange64 s.value then some s.value else none := by
  have hall : s.digits.all isAsciiDigit = true := List.all_eq_true.2 s.ascii
  have hdigits : digits? s.digits = some s.size := by simp [digits?, s.ne_nil, hall, size]
  rw [int64?_eq, s.sign_text, hdigits, value]
  by_cases hin : InRange64 (signed s.negative s.size)
  · rw [if_pos hin, Option.filter_some_pos (by simpa using hin)]
    rfl
  · rw [if_neg hin, Option.filter_some_neg (by simpa using hin)]
    rfl

/-- Rounding moves some integers over the ends of the range. -/
theorem inRange64_nearestInt_iff {n : Int} :
    InRange64 (nearestInt n) ↔ -(bound63 : Int) - 2 ^ 10 ≤ n ∧ n < (bound63 : Int) - 2 ^ 9 := by
  have hlow : nearestInt (-(bound63 : Int) - 2 ^ 10) = -(bound63 : Int) := by decide
  have hbelow : nearestInt (-(bound63 : Int) - 2 ^ 10 - 1) < -(bound63 : Int) := by decide
  have hhigh : nearestInt ((bound63 : Int) - 2 ^ 9) = bound63 := by decide
  have habove : nearestInt ((bound63 : Int) - 2 ^ 9 - 1) < bound63 := by decide
  constructor
  · rintro ⟨hfirst, hlast⟩
    constructor
    · by_contra hout
      exact absurd (nearestInt_mono (show n ≤ -(bound63 : Int) - 2 ^ 10 - 1 by omega)) (by omega)
    · by_contra hout
      exact absurd (nearestInt_mono (show (bound63 : Int) - 2 ^ 9 ≤ n by omega)) (by omega)
  · rintro ⟨hfirst, hlast⟩
    constructor
    · rw [← hlow]
      exact nearestInt_mono hfirst
    · exact (nearestInt_mono (show n ≤ (bound63 : Int) - 2 ^ 9 - 1 by omega)).trans_lt habove

/-- The integers of 64 bits are far from where the format ends. -/
theorem bound63_lt_beyond : bound63 < beyond :=
  show 2 ^ 63 < 2 ^ (53 + highest.toNat) from Nat.pow_lt_pow_right (by decide) (by decide)

/-- The whole part of what reads as a whole number, if that is in the range. -/
theorem truncateToInt_of_reads {text : String} {x : Binary64} {negative : Bool} {n : Nat}
    (hread : Binary64.read? text = some x) (hx : ReadsWhole x negative n) :
    truncateToInt text =
      if InRange64 (signed negative n) then .ok (signed negative n) else .error (.outsideIntegers text) := by
  have hlow : IsWhole (Binary64.ofInt (-(bound63 : Int))) true bound63 :=
    ⟨leadingBit, 11, by decide +kernel, by decide, by decide +kernel⟩
  have hhigh : IsWhole (Binary64.ofInt bound63) false bound63 :=
    ⟨leadingBit, 11, by decide +kernel, by decide, by decide +kernel⟩
  rw [truncateToInt, hread]
  dsimp only
  rcases hx with hwhole | ⟨rfl, hbeyond⟩
  · rw [hwhole.isFinite, hwhole.truncate]
    have hfirst := hlow.le_iff hwhole
    have hlast := hhigh.le_iff hwhole
    by_cases hin : InRange64 (signed negative n)
    · have hle : (Binary64.ofInt (-(bound63 : Int))).le x = true := hfirst.2 hin.1
      have hnot : (Binary64.ofInt bound63).le x = false := by
        rw [← Bool.not_eq_true, hlast]
        exact Int.not_le.2 hin.2
      simp [hin, hle, hnot]
    · rw [if_neg hin, if_pos]
      rw [InRange64, not_and_or, Int.not_le, Int.not_lt] at hin
      rcases hin with hbelow | habove
      · have hnot : (Binary64.ofInt (-(bound63 : Int))).le x = false := by
          rw [← Bool.not_eq_true, hfirst]
          exact Int.not_le.2 hbelow
        simp [hnot]
      · have hle : (Binary64.ofInt bound63).le x = true := hlast.2 habove
        simp [hle]
  · have hout : ¬ InRange64 (signed negative n) := by
      have hbound := bound63_lt_beyond
      rintro ⟨hfirst, hlast⟩
      cases negative <;> simp only [signed, if_true, Bool.false_eq_true, if_false] at hfirst hlast <;> omega
    rw [if_neg hout]
    rfl

namespace Numeral

variable (s : Numeral)

/-- A numeral is converted to the nearest integer of 53 bits, if that is in the range. -/
theorem truncateToInt_text : truncateToInt s.text =
    if InRange64 (nearestInt s.value) then .ok (nearestInt s.value) else .error (.outsideIntegers s.text) := by
  obtain ⟨x, hread, hx⟩ := s.read?_text
  rw [truncateToInt_of_reads hread hx, value, nearestInt_signed]

/-- The test of numbers that makes integers of them. -/
def integerTest (values : List String) : Token := { test := .number, modifiers := [.integer], values }

theorem run_integerTest (scope : Scope) (values : List String) :
    (Evaluation.mk scope (integerTest values) (.text s.text)).run.value =
      if InRange64 (nearestInt s.value) then .ok (.replaced (showInt (nearestInt s.value)))
      else .error (.outsideIntegers s.text) := by
  have hsupported : (integerTest values).unsupported? = none := by
    simp only [Token.unsupported?, integerTest]
    decide
  have hunset : (Subject.text s.text).isUnset = false := s.isUnset_text
  have hjudge : (Check.judge scope (integerTest values) (.text s.text)).outcome.value =
      Check.number (integerTest values) (.text s.text) := rfl
  have hnumber : Check.number (integerTest values) (.text s.text) =
      (truncateToInt s.text).map fun n => .replaced (showInt n) := by
    have honly : (integerTest values).has .only = false := rfl
    have hinteger : (integerTest values).has .integer = true := rfl
    simp only [Check.number, Subject.text?, Check.numeral, honly, hinteger, s.normalizeDecimal_text, s.isNumeric_text,
      Bool.false_eq_true, if_false, if_true, bind, Except.bind]
    cases truncateToInt s.text <;> rfl
  rw [Evaluation.run, Check.value_evaluate_of_supported hsupported, hunset, Bool.and_false, if_neg Bool.false_ne_true,
    hjudge, hnumber, s.truncateToInt_text]
  split <;> rfl

theorem convert_integer : Target.integer.convert (.text s.text) =
    if InRange64 (nearestInt s.value) then .ok (.int (nearestInt s.value))
    else .error (.notConvertible s.text .integer) := by
  have hblank : (Value.text s.text).isBlank = false := s.isBlankText_text
  have htext : Target.ofText? .integer s.text = (truncateToInt s.text).toOption.map .int := by
    simp only [Target.ofText?, s.normalizeDecimal_text, s.isNumeric_text, if_true]
  simp only [Target.convert, hblank, Bool.false_eq_true, if_false, Value.scalarText?, Option.getD_some,
    Target.convertScalar, s.trim_text, htext, s.truncateToInt_text]
  by_cases hin : InRange64 (nearestInt s.value)
  · simp only [if_pos hin, Except.toOption, Option.map_some]
  · simp only [if_neg hin, Except.toOption, Option.map_none]

/-- Both ways to an integer give the one that is written; out of the range both refuse it. -/
def ConvertsExactly (scope : Scope) (values : List String) : Prop :=
  if InRange64 s.value then
    (Evaluation.mk scope (integerTest values) (.text s.text)).run.value = .ok (.replaced (showInt s.value)) ∧
      Target.integer.convert (.text s.text) = .ok (.int s.value)
  else
    (Evaluation.mk scope (integerTest values) (.text s.text)).run.value = .error (.outsideIntegers s.text) ∧
      Target.integer.convert (.text s.text) = .error (.notConvertible s.text .integer)

/-- Both ways give the nearest integer of 53 bits and compare that one with the range. So they are exact for the integers
of 53 bits, and for those that stay out of the range when they are rounded. -/
theorem integer_converted (scope : Scope) (values : List String) :
    (Evaluation.mk scope (integerTest values) (.text s.text)).run.value =
        (if InRange64 (nearestInt s.value) then .ok (.replaced (showInt (nearestInt s.value)))
        else .error (.outsideIntegers s.text)) ∧
      Target.integer.convert (.text s.text) =
        (if InRange64 (nearestInt s.value) then .ok (.int (nearestInt s.value))
        else .error (.notConvertible s.text .integer)) ∧
      (InRange64 (nearestInt s.value) ↔
        -(bound63 : Int) - 2 ^ 10 ≤ s.value ∧ s.value < (bound63 : Int) - 2 ^ 9) ∧
      (s.ConvertsExactly scope values ↔
        FitsMantissa s.value.natAbs ∨ s.value < -(bound63 : Int) - 2 ^ 10 ∨ (bound63 : Int) ≤ s.value) := by
  have hround := inRange64_nearestInt_iff (n := s.value)
  refine ⟨s.run_integerTest scope values, s.convert_integer, hround, ?_⟩
  rw [← nearestInt_eq_self_iff, ConvertsExactly, s.run_integerTest, s.convert_integer]
  constructor
  · intro hexact
    by_cases hin : InRange64 s.value
    · by_cases hrounded : InRange64 (nearestInt s.value)
      · rw [if_pos hin, if_pos hrounded, if_pos hrounded] at hexact
        obtain ⟨-, hconvert⟩ := hexact
        injection hconvert with hvalue
        injection hvalue with hself
        exact .inl hself
      · rw [if_pos hin, if_neg hrounded] at hexact
        cases hexact.1
    · by_cases hrounded : InRange64 (nearestInt s.value)
      · rw [if_neg hin, if_pos hrounded] at hexact
        cases hexact.1
      · have hwide : (2 ^ 10 : Int) < bound63 := by decide +kernel
        rw [hround] at hrounded
        unfold InRange64 at hin
        omega
  · intro hcases
    rcases hcases with hself | hout
    · rw [hself]
      split <;> exact ⟨rfl, rfl⟩
    · have hin : ¬ InRange64 s.value := by
        unfold InRange64
        omega
      have hrounded : ¬ InRange64 (nearestInt s.value) := by
        rw [hround]
        omega
      rw [if_neg hin, if_neg hrounded, if_neg hrounded]
      exact ⟨rfl, rfl⟩

/-- A numeral of 54 bits becomes another integer, the greatest integer of the range is refused, and the one below the
least is taken for the least. -/
theorem long_numeral_changed :
    let scope : Scope := { collaborators := .mute }
    let long := ofInt 9007199254740993
    let greatest := ofInt 9223372036854775807
    let below := ofInt (-9223372036854775809)
    long.text = "9007199254740993" ∧ ¬ long.ConvertsExactly scope [] ∧
      (Evaluation.mk scope (integerTest []) (.text "9007199254740993")).run.value = .ok (.replaced "9007199254740992") ∧
      Target.integer.convert (.text "9007199254740993") = .ok (.int 9007199254740992) ∧
      greatest.text = "9223372036854775807" ∧ ¬ greatest.ConvertsExactly scope [] ∧
      (Evaluation.mk scope (integerTest []) (.text "9223372036854775807")).run.value =
        .error (.outsideIntegers "9223372036854775807") ∧
      below.text = "-9223372036854775809" ∧ ¬ below.ConvertsExactly scope [] ∧
      (Evaluation.mk scope (integerTest []) (.text "-9223372036854775809")).run.value =
        .ok (.replaced "-9223372036854775808") := by
  intro scope long greatest below
  have hlong : long.text = "9007199254740993" := by decide +kernel
  have hgreatest : greatest.text = "9223372036854775807" := by decide +kernel
  have hbelow : below.text = "-9223372036854775809" := by decide +kernel
  have hchanged : (Evaluation.mk scope (integerTest []) (.text "9007199254740993")).run.value =
      .ok (.replaced "9007199254740992") := by decide +kernel
  have hrefused : (Evaluation.mk scope (integerTest []) (.text "9223372036854775807")).run.value =
      .error (.outsideIntegers "9223372036854775807") := by decide +kernel
  have haccepted : (Evaluation.mk scope (integerTest []) (.text "-9223372036854775809")).run.value =
      .ok (.replaced "-9223372036854775808") := by decide +kernel
  refine ⟨hlong, ?_, hchanged, ?_, hgreatest, ?_, hrefused, hbelow, ?_, haccepted⟩
  · rw [ConvertsExactly, if_pos (by decide +kernel), hlong, hchanged]
    rintro ⟨hwritten, -⟩
    exact absurd hwritten (by decide +kernel)
  · have hnearest : nearestInt long.value = 9007199254740992 := by decide +kernel
    rw [← hlong, convert_integer, hnearest, if_pos (by decide +kernel)]
  · rw [ConvertsExactly, if_pos (by decide +kernel), hgreatest, hrefused]
    rintro ⟨hwritten, -⟩
    cases hwritten
  · rw [ConvertsExactly, if_neg (by decide +kernel), hbelow, haccepted]
    rintro ⟨hwritten, -⟩
    cases hwritten

end Numeral

end FieldRules
