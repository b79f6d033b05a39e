import FieldRules.Proofs.Drawing
import Mathlib.Algebra.Order.Field.Rat
import Mathlib.Tactic.NormNum
/-!
# Numbers drawn out of numbers

A number is drawn out part by part (`NumberText.drawn_chars`). So what is drawn out of any text is a number that is
drawn out of itself (`extractNumber_draws`), and what is accepted as a number, with digits of ASCII, has the same number
drawn out of it (`only_keeps_number`), but for a sign behind blanks: a sign is kept as the first character of the text
only (`only_loses_sign`).
-/

namespace FieldRules

open Text Unicode

/-! ## Drawing out a number -/

namespace NumberText

theorem addDigits_nil (n : NumberText) : n.addDigits [] = n := by
  match n with
  | ⟨sign, whole, fraction, some p⟩ => simp [addDigits]
  | ⟨sign, whole, some es, none⟩ => simp [addDigits]
  | ⟨sign, whole, none, none⟩ => simp [addDigits]

theorem addDigits_addDigits (n : NumberText) (xs ys : List Char) :
    (n.addDigits xs).addDigits ys = n.addDigits (xs ++ ys) := by
  fun_cases addDigits n xs <;> simp_all [addDigits]

theorem foldl_take_digits (n : NumberText) {ds : List Char} (hds : ∀ c ∈ ds, isAsciiDigit c = true) :
    ds.foldl (take false) n = n.addDigits ds := by
  induction ds generalizing n with
  | nil => exact (addDigits_nil n).symm
  | cons c ds ih =>
    have hc : n.take false c = n.addDigits [c] := if_pos (hds c (.head _))
    rw [List.foldl_cons, hc, ih _ fun d hd => hds d (.tail _ hd), addDigits_addDigits]
    rfl

theorem foldl_take_fractionChars {n : NumberText} (hfraction : n.fraction = none) (hpower : n.power = none)
    {fraction : Option (List Char)} (hds : ∀ c ∈ fraction.getD [], isAsciiDigit c = true) :
    (fractionChars fraction).foldl (take false) n = { n with fraction } := by
  match fraction with
  | none => rw [fractionChars, List.foldl_nil, ← hfraction]
  | some ds =>
    have hds : ∀ c ∈ ds, isAsciiDigit c = true := hds
    have hpoint : take false n '.' = { n with fraction := some [] } := by simp [take, hfraction, hpower, isAsciiDigit]
    rw [fractionChars, List.foldl_cons, hpoint, foldl_take_digits _ hds]
    simp [addDigits, hpower]

theorem foldl_take_powerChars {n : NumberText} (hne : n.whole ++ n.decimals ≠ []) (hpower : n.power = none)
    {power : Option PowerText} (h : ∀ p ∈ power, p.WellFormed isAsciiDigit) :
    (powerChars power).foldl (take false) n = { n with power := power.map fun p => { p with capital := false } } := by
  cases power with
  | none => rw [Option.map_none, powerChars, List.foldl_nil, ← hpower]
  | some p =>
    obtain ⟨capital, sign, ds⟩ := p
    have hmark : take false n (if capital then 'E' else 'e') = { n with power := some {} } := by
      cases capital <;> simp [take, hne, hpower, isAsciiDigit]
    have hsign : (signText sign).foldl (take false) { n with power := some {} } =
        { n with power := some { sign } } := by
      cases sign with
      | none => rfl
      | some negative => cases negative <;> rfl
    rw [powerChars, PowerText.chars, List.foldl_cons, hmark, List.foldl_append, hsign,
      foldl_take_digits _ (h _ rfl).digits]
    rfl

/-- What is drawn out of a number: its sign is taken at the start of the text only. -/
def kept (n : NumberText) (isFirst : Bool) : NumberText :=
  { n with sign := if isFirst then n.sign else none, power := n.power.map fun p => { p with capital := false } }

section
variable {n : NumberText} (h : n.WellFormed isAsciiDigit) (isFirst : Bool)
include h

theorem drawn_signText : drawn isFirst n.chars =
    (n.whole ++ (fractionChars n.fraction ++ powerChars n.power)).foldl (take false)
      { sign := if isFirst then n.sign else none } := by
  have hhead := head_whole not_isAsciiDigit_of_mem_numberSigns h
  rw [chars]
  generalize n.whole ++ (fractionChars n.fraction ++ powerChars n.power) = rest at hhead ⊢
  cases n.sign with
  | some negative => cases negative <;> cases isFirst <;> rfl
  | none =>
    cases rest with
    | nil => simp [drawn]
    | cons c cs =>
      have hsign : ¬ (c = '+' ∨ c = '-') := not_or.2 (hhead c rfl).symm
      have htake : take isFirst {} c = take false {} c := by simp only [take, if_neg hsign]
      simp [drawn, htake]

/-- A number is drawn out of itself. -/
theorem drawn_chars : drawn isFirst n.chars = n.kept isFirst := by
  have hwhole (sign : Option Bool) : n.whole.foldl (take false) { sign } = { sign, whole := n.whole } :=
    foldl_take_digits _ h.whole
  rw [drawn_signText h, List.foldl_append, List.foldl_append, hwhole, foldl_take_fractionChars rfl rfl h.decimals,
    foldl_take_powerChars (by exact h.ne_nil) rfl h.power]
  rfl

theorem wellFormed_kept : (n.kept isFirst).WellFormed isAsciiDigit where
  whole := h.whole
  decimals := h.decimals
  ne_nil := h.ne_nil
  power p hp := by
    obtain ⟨q, hq, rfl⟩ := Option.map_eq_some_iff.1 hp
    exact { ne_nil := (h.power q hq).ne_nil, digits := (h.power q hq).digits }

end

/-- The same is written, with the sign or without it. -/
theorem decimal_kept (n : NumberText) (isFirst : Bool) :
    (n.kept isFirst).decimal = { n.decimal with negative := isFirst && n.decimal.negative } := by
  obtain ⟨sign, whole, fraction, power⟩ := n
  cases isFirst <;> cases power <;> rfl

theorem Settled.kept_eq {n : NumberText} (h : n.Settled) : n.kept true = n := by
  obtain ⟨sign, whole, fraction, power⟩ := n
  match power with
  | none => rfl
  | some ⟨capital, psign, ds⟩ =>
    obtain rfl : capital = false := h.small _ rfl
    rfl

theorem Settled.drawn_eq {n : NumberText} (h : n.Settled) : drawn true n.chars = n := by
  rw [drawn_chars h.toWellFormed, h.kept_eq]

end NumberText

/-- A number is drawn out of what has an ASCII digit. It has those digits in their order, and is drawn out of itself. -/
theorem extractNumber_draws (s : String) :
    match extractNumber s with
    | none => ∀ c ∈ s.toList, isAsciiDigit c = false
    | some t => (∃ c ∈ s.toList, isAsciiDigit c = true) ∧ isNumeric t = true ∧
        t.toList.filter isAsciiDigit = s.toList.filter isAsciiDigit ∧ extractNumber t = some t := by
  obtain ⟨n, hn⟩ : ∃ n, NumberText.drawn true s.toList = n := ⟨_, rfl⟩
  have hfilter : n.digits = s.toList.filter isAsciiDigit := hn ▸ NumberText.digits_drawn true s.toList
  rw [extractNumber_eq, hn]
  by_cases hdigits : n.digits = []
  · rw [if_pos hdigits]
    rw [hfilter, List.filter_eq_nil_iff] at hdigits
    exact fun c hc => Bool.eq_false_iff.2 (hdigits c hc)
  · rw [if_neg hdigits]
    have hsettled := NumberText.settled_closed (hn ▸ NumberText.drawn_drawn true s.toList) hdigits
    refine ⟨?_, ?_, ?_, ?_⟩
    · rw [hfilter, List.filter_eq_nil_iff] at hdigits
      simpa using hdigits
    · exact isNumeric_iff.2 ⟨_, hsettled.toWellFormed.mono fun c _ hc => decimalDigit_of_isAsciiDigit hc,
        String.toList_ofList⟩
    · rw [String.toList_ofList, ← NumberText.digits_drawn true, hsettled.drawn_eq, NumberText.digits_closed, hfilter]
    · rw [extractNumber_eq, String.toList_ofList, hsettled.drawn_eq, hsettled.closed_eq, NumberText.digits_closed,
        if_neg hdigits]

/-! ## Outer blanks -/

/-- Does a text start with a blank? -/
def startsBlank (v : String) : Bool := v.toList.head?.any isBlank

theorem exists_trimChars (cs : List Char) :
    ∃ post, cs = cs.takeWhile isBlank ++ (trimChars cs ++ post) ∧ ∀ c ∈ post, isBlank c = true := by
  obtain ⟨post, hpost, hblank⟩ := exists_trimEndChars (trimStartChars cs)
  refine ⟨post, ?_, hblank⟩
  rw [trimChars, ← hpost, trimStartChars, List.takeWhile_append_dropWhile]

theorem isEmpty_takeWhile_isBlank (v : String) : (v.toList.takeWhile isBlank).isEmpty = !startsBlank v := by
  rw [startsBlank, any_head?_eq, Bool.not_not]

namespace NumberText

theorem take_of_isBlank {c : Char} (h : isBlank c = true) (isFirst : Bool) (n : NumberText) : n.take isFirst c = n := by
  have hdigit : isAsciiDigit c = false := by
    rw [Bool.eq_false_iff]
    intro hdigit
    rw [not_isBlank_of_decimalDigit (decimalDigit_of_isAsciiDigit hdigit)] at h
    cases h
  have hsigns : ∀ d ∈ ',' :: numberSigns, c ≠ d := by
    have hblanks : ((',' :: numberSigns).all fun d => !isBlank d) = true := by decide
    rintro d hd rfl
    have hother := List.all_eq_true.1 hblanks c hd
    rw [h] at hother
    cases hother
  have hc : c ≠ ',' ∧ c ≠ '+' ∧ c ≠ '-' ∧ c ≠ '.' ∧ c ≠ 'e' ∧ c ≠ 'E' := by
    simpa [numberSigns] using hsigns
  simp [take, hdigit, hc]

theorem foldl_take_blanks {bs : List Char} (h : ∀ c ∈ bs, isBlank c = true) (n : NumberText) :
    bs.foldl (take false) n = n := by
  induction bs with
  | nil => rfl
  | cons b bs ih =>
    rw [List.foldl_cons, take_of_isBlank (h b (.head _)), ih fun c hc => h c (.tail _ hc)]

/-- Nothing is drawn out of blanks, but what follows them is not at the start. -/
theorem drawn_blanks {pre post : List Char} (hpre : ∀ c ∈ pre, isBlank c = true) (hpost : ∀ c ∈ post, isBlank c = true)
    (cs : List Char) : drawn true (pre ++ (cs ++ post)) = drawn pre.isEmpty cs := by
  have hend (isFirst : Bool) : drawn isFirst (cs ++ post) = drawn isFirst cs := by
    match cs, post with
    | [], [] => rfl
    | [], c :: post =>
      rw [List.nil_append, drawn_cons, take_of_isBlank (hpost c (.head _)),
        foldl_take_blanks fun d hd => hpost d (.tail _ hd)]
      rfl
    | c :: cs, post => rw [List.cons_append, drawn_cons, List.foldl_append, foldl_take_blanks hpost, drawn_cons]
  match pre with
  | [] => exact hend true
  | b :: bs =>
    rw [List.cons_append, drawn_cons, take_of_isBlank (hpre b (.head _)), List.foldl_append,
      foldl_take_blanks fun c hc => hpre c (.tail _ hc), List.isEmpty_cons, ← hend]
    cases cs ++ post <;> rfl

/-- A decimal comma is taken for a point. -/
theorem take_pointFor (isFirst : Bool) (n : NumberText) (c : Char) : n.take isFirst (pointFor c) = n.take isFirst c := by
  by_cases hc : c = ','
  · subst hc
    rfl
  · rw [pointFor, if_neg (by simpa using hc)]

theorem drawn_map_pointFor (isFirst : Bool) (cs : List Char) : drawn isFirst (cs.map pointFor) = drawn isFirst cs := by
  match cs with
  | [] => rfl
  | c :: cs =>
    rw [List.map_cons, drawn_cons, drawn_cons, List.foldl_map, take_pointFor]
    simp only [take_pointFor]

theorem drawn_toList (v : String) : drawn true v.toList = drawn (!startsBlank v) (normalizeDecimal v).toList := by
  obtain ⟨post, hv, hpost⟩ := exists_trimChars v.toList
  have hpre : ∀ c ∈ v.toList.takeWhile isBlank, isBlank c = true := fun c hc => List.mem_takeWhile_imp hc
  have htrim : drawn (!startsBlank v) (normalizeDecimal v).toList = drawn (!startsBlank v) (trimChars v.toList) := by
    rcases toList_normalizeDecimal v with hplain | hcomma
    · rw [hplain]
    · rw [hcomma, drawn_map_pointFor]
  rw [htrim, ← isEmpty_takeWhile_isBlank, ← drawn_blanks hpre hpost, ← hv]

end NumberText

/-! ## What is denoted -/

/-- The rational number that a decimal is. -/
def Decimal.value (d : Decimal) : ℚ := (if d.negative then -1 else 1) * (d.digits * 10 ^ d.power)

/-- The rational number that a text denotes. -/
def denoted? (s : String) : Option ℚ := (Decimal.read? s.toList).map (·.value)

theorem Decimal.value_dropSign (d : Decimal) (blank : Bool) :
    ({ d with negative := !blank && d.negative } : Decimal).value = if blank then |d.value| else d.value := by
  have hnonneg : (0 : ℚ) ≤ d.digits * 10 ^ d.power := mul_nonneg (Nat.cast_nonneg _) (zpow_nonneg (by norm_num) _)
  cases blank with
  | false => rfl
  | true => cases hn : d.negative <;> simp [Decimal.value, hn, abs_of_nonneg hnonneg]

theorem denoted?_ofList_chars {n : NumberText} (h : n.WellFormed isAsciiDigit) :
    denoted? (String.ofList n.chars) = some n.decimal.value := by
  rw [denoted?, String.toList_ofList, read?_eq, NumberText.ofChars?_chars not_isAsciiDigit_of_mem_numberSigns h]
  rfl

/-- What is drawn out of a number is the same number, without its sign if that stands behind blanks. -/
theorem denoted?_extractNumber {v : String} (hnumeric : isNumeric (normalizeDecimal v) = true)
    (hdigits : AsciiDigits v.toList) :
    ∃ text q, extractNumber v = some text ∧ denoted? (normalizeDecimal v) = some q ∧
      denoted? text = some (if startsBlank v then |q| else q) := by
  obtain ⟨n, hn, hchars⟩ := isNumeric_iff.1 hnumeric
  have hn : n.WellFormed isAsciiDigit := hn.mono (hchars ▸ (asciiDigits_normalizeDecimal v).2 hdigits)
  have hdrawn : NumberText.drawn true v.toList = n.kept (!startsBlank v) := by
    rw [NumberText.drawn_toList, hchars, NumberText.drawn_chars hn]
  have hkept := NumberText.wellFormed_kept hn (!startsBlank v)
  have hsettled : (n.kept (!startsBlank v)).digits ≠ [] := by
    rw [NumberText.digits]
    exact List.append_ne_nil_of_left_ne_nil hkept.ne_nil _
  have hclosed := NumberText.settled_closed (hdrawn ▸ NumberText.drawn_drawn true v.toList) hsettled
  refine ⟨String.ofList (n.kept (!startsBlank v)).closed.chars, n.decimal.value, ?_, ?_, ?_⟩
  · rw [extractNumber_eq, hdrawn, if_neg hsettled]
  · rw [← String.ofList_toList (s := normalizeDecimal v), hchars, denoted?_ofList_chars hn]
  · rw [denoted?_ofList_chars hclosed.toWellFormed, NumberText.decimal_closed hkept, NumberText.decimal_kept,
      Decimal.value_dropSign]

/-! ## The modifier -/

section
variable (scope : Scope) (values : List String) (v : String)

theorem value_run_only {text : String} (hset : isUnset v = false) (h : extractNumber v = some text) :
    (Evaluation.mk scope (numberTest [.only] values) (.text v)).run.value =
      .ok (if text = v then .accepted else .replaced text) := by
  rw [value_run_number scope values v (by decide), hset, if_neg Bool.false_ne_true]
  have honly : (numberTest [.only] values).has .only = true := rfl
  have hinteger : (numberTest [.only] values).has .integer = false := rfl
  have hfloat : (numberTest [.only] values).has .float = false := rfl
  simp only [Check.number, Subject.text?, Check.numeral, honly, hinteger, hfloat, h, Bool.false_eq_true, if_false,
    if_true, bind, Except.bind, pure, Except.pure]
  by_cases htext : text = v <;> simp [htext]

/-- A number with digits of ASCII that is drawn out is the same number, but for a sign behind blanks. -/
theorem only_keeps_number
    (haccepted : (Evaluation.mk scope (numberTest [] values) (.text v)).run.value = .ok .accepted)
    (hdigits : AsciiDigits v.toList) :
    ∃ outcome text q, (Evaluation.mk scope (numberTest [.only] values) (.text v)).run.value = .ok outcome ∧
      outcome.update (.text v) = .text text ∧
      denoted? (normalizeDecimal v) = some q ∧ denoted? text = some (if startsBlank v then |q| else q) := by
  have hnumeric := (number_accepted_iff scope values).1 haccepted
  obtain ⟨text, q, htext, hnumber, hsame⟩ := denoted?_extractNumber hnumeric hdigits
  refine ⟨_, text, q, value_run_only scope values v (isUnset_of_isNumeric hnumeric) htext, ?_, hnumber, hsame⟩
  split
  · rename_i heq
    rw [heq]
    rfl
  · rfl

end

/-- A negative number behind a blank and with a decimal comma. -/
theorem only_keeps_number_behind_blank :
    let scope : Scope := { collaborators := .mute }
    (Evaluation.mk scope (numberTest [] []) (.text " -3,25E1 ")).run.value = .ok .accepted ∧
      AsciiDigits " -3,25E1 ".toList ∧
      ∃ outcome text q, (Evaluation.mk scope (numberTest [.only] []) (.text " -3,25E1 ")).run.value = .ok outcome ∧
        outcome.update (.text " -3,25E1 ") = .text text ∧
        denoted? (normalizeDecimal " -3,25E1 ") = some q ∧ denoted? text = some |q| := by
  intro scope
  have haccepted : (Evaluation.mk scope (numberTest [] []) (.text " -3,25E1 ")).run.value = .ok .accepted := by
    decide
  have hdigits : AsciiDigits " -3,25E1 ".toList := by decide
  exact ⟨haccepted, hdigits, only_keeps_number scope [] _ haccepted hdigits⟩

/-- Behind a blank the sign is lost, and digits of other scripts are no digits to what draws a number out. -/
theorem only_loses_sign :
    let scope : Scope := { collaborators := .mute }
    ((Evaluation.mk scope (numberTest [] []) (.text " -5")).run.value = .ok .accepted ∧
      (Evaluation.mk scope (numberTest [.only] []) (.text " -5")).run.value = .ok (.replaced "5") ∧
      denoted? (normalizeDecimal " -5") = some (-5) ∧ denoted? "5" = some 5) ∧
      (Evaluation.mk scope (numberTest [] []) (.text "\u0663")).run.value = .ok .accepted ∧
      (Evaluation.mk scope (numberTest [.only] []) (.text "\u0663")).run.value = .error .holdsNoNumber := by
  intro scope
  have hread : Decimal.read? (normalizeDecimal " -5").toList = some { negative := true, digits := 5, power := 0 } := by
    decide
  have hread' : Decimal.read? "5".toList = some { negative := false, digits := 5, power := 0 } := by decide
  refine ⟨⟨by decide, by decide, ?_, ?_⟩, by decide, by decide⟩
  · rw [denoted?, hread]
    norm_num [Decimal.value]
  · rw [denoted?, hread']
    norm_num [Decimal.value]

end FieldRules
