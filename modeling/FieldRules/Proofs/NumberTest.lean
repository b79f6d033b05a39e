import FieldRules.Proofs.NumberGrammar
/-!
# The test of numbers

A text is accepted as a number if it is one without its outer blanks and with a point for a decimal comma
(`number_accepted_iff`). What is accepted is converted to a float or an integer just if all its digits are ASCII digits:
the conversions read no others (`accepted_converts_iff`).
-/

namespace FieldRules

open Text Unicode

/-! ## The decimal comma -/

/-- A point stands for the decimal comma. -/
def pointFor (c : Char) : Char := if c == ',' then '.' else c

theorem pointFor_eq_iff {c d : Char} (hd : d ≠ '.') : pointFor c = d ↔ c = d ∧ d ≠ ',' := by
  unfold pointFor
  by_cases hc : c = ','
  · subst hc
    simpa [eq_comm] using hd.symm
  · have hbeq : (c == ',') = false := beq_eq_false_iff_ne.2 hc
    simp only [hbeq, Bool.false_eq_true, if_false]
    constructor
    · rintro rfl
      exact ⟨rfl, hc⟩
    · exact And.left

theorem toList_normalizeDecimal (v : String) : (normalizeDecimal v).toList = trimChars v.toList ∨
    (normalizeDecimal v).toList = (trimChars v.toList).map pointFor := by
  simp only [normalizeDecimal]
  split
  · right
    rw [String.toList_ofList]
    rfl
  · left
    rw [String.toList_ofList]

theorem not_isBlank_of_decimalDigit {c : Char} (h : decimalDigit.has c = true) : isBlank c = false := by
  rw [Bool.eq_false_iff]
  intro hblank
  have hword := not_isWord_of_isBlank hblank
  simp [isWord, h] at hword

/-- The digits of a text are those of its number. -/
theorem mem_normalizeDecimal_iff {c : Char} (hc : decimalDigit.has c = true) (v : String) :
    c ∈ (normalizeDecimal v).toList ↔ c ∈ v.toList := by
  have htrim : c ∈ trimChars v.toList ↔ c ∈ v.toList :=
    ⟨mem_trimChars, mem_trimChars_of_not_isBlank (not_isBlank_of_decimalDigit hc)⟩
  rw [← htrim]
  rcases toList_normalizeDecimal v with hplain | hcomma
  · rw [hplain]
  · have hpoint : c ≠ '.' := ne_of_digit not_decimalDigit_of_mem_numberSigns (by decide) hc
    have hother : c ≠ ',' := by
      rintro rfl
      exact absurd hc (by decide)
    rw [hcomma, List.mem_map]
    simp [pointFor_eq_iff hpoint, hother]

theorem asciiDigits_normalizeDecimal (v : String) :
    AsciiDigits (normalizeDecimal v).toList ↔ AsciiDigits v.toList := by
  constructor
  · exact fun h c hc hdigit => h c ((mem_normalizeDecimal_iff hdigit v).2 hc) hdigit
  · exact fun h c hc hdigit => h c ((mem_normalizeDecimal_iff hdigit v).1 hc) hdigit

/-! ## The test of numbers -/

/-- The test of numbers with some modifiers. -/
def numberTest (modifiers : List Modifier) (values : List String) : Token := { test := .number, modifiers, values }

section
variable (scope : Scope) (values : List String) (v : String)

theorem value_run_number {modifiers : List Modifier} (h : ∀ m ∈ modifiers, Test.number.supports m = true) :
    (Evaluation.mk scope (numberTest modifiers values) (.text v)).run.value =
      if isUnset v then .ok .empty else Check.number (numberTest modifiers values) (.text v) := by
  have hsupported : (numberTest modifiers values).unsupported? = none := Token.unsupported?_eq_none_iff.2 h
  rw [Evaluation.run, Check.value_evaluate_of_supported hsupported]
  rfl

variable {v}

theorem isUnset_of_isNumeric (h : isNumeric (normalizeDecimal v) = true) : isUnset v = false :=
  isUnset_eq_false (p := fun v => isNumeric (normalizeDecimal v)) (by decide) (by decide) h

/-- A text is accepted as a number if it is one without its outer blanks and with a point for a decimal comma. -/
theorem number_accepted_iff : (Evaluation.mk scope (numberTest [] values) (.text v)).run.value = .ok .accepted ↔
    isNumeric (normalizeDecimal v) = true := by
  rw [value_run_number scope values v (by simp)]
  constructor
  · intro h
    split at h
    · cases h
    · by_contra hnumeric
      simp [Check.number, Check.numeral, Subject.text?, numberTest, Token.has, hnumeric, bind, Except.bind] at h
  · intro h
    rw [isUnset_of_isNumeric h, if_neg Bool.false_ne_true]
    simp [Check.number, Check.numeral, Subject.text?, numberTest, Token.has, h, bind, Except.bind, pure, Except.pure]

theorem value_run_float (h : isNumeric (normalizeDecimal v) = true) :
    (Evaluation.mk scope (numberTest [.float] values) (.text v)).run.value =
      (parseFiniteFloat (normalizeDecimal v)).map fun x => .replaced (floatText x) := by
  rw [value_run_number scope values v (by decide), isUnset_of_isNumeric h, if_neg Bool.false_ne_true]
  have honly : (numberTest [.float] values).has .only = false := rfl
  have hinteger : (numberTest [.float] values).has .integer = false := rfl
  have hfloat : (numberTest [.float] values).has .float = true := rfl
  simp only [Check.number, Subject.text?, Check.numeral, honly, hinteger, hfloat, h, Bool.false_eq_true, if_false,
    if_true, bind, Except.bind]
  cases parseFiniteFloat (normalizeDecimal v) <;> rfl

theorem value_run_integer (h : isNumeric (normalizeDecimal v) = true) :
    (Evaluation.mk scope (numberTest [.integer] values) (.text v)).run.value =
      (truncateToInt (normalizeDecimal v)).map fun n => .replaced (showInt n) := by
  rw [value_run_number scope values v (by decide), isUnset_of_isNumeric h, if_neg Bool.false_ne_true]
  have honly : (numberTest [.integer] values).has .only = false := rfl
  have hinteger : (numberTest [.integer] values).has .integer = true := rfl
  simp only [Check.number, Subject.text?, Check.numeral, honly, hinteger, h, Bool.false_eq_true, if_false, if_true,
    bind, Except.bind]
  cases truncateToInt (normalizeDecimal v) <;> rfl

end

/-! ## Conversions -/

/-- The subject is rewritten, or its number lies outside the range of the conversion. -/
def Evaluation.Converts (e : Evaluation) : Prop :=
  (∃ text, e.run.value = .ok (.replaced text)) ∨ ∃ fault, e.run.value = .error fault ∧ fault.id = "vE091"

theorem Evaluation.not_converts_of_notNumeral {e : Evaluation} {numeral : String}
    (h : e.run.value = .error (.notNumeral numeral)) : ¬ e.Converts := by
  have hid : (Fault.notNumeral numeral).id ≠ "vE091" := show "vE089" ≠ "vE091" by decide
  rintro (⟨text, htext⟩ | ⟨fault, hfault, hfaultId⟩)
  · rw [h] at htext
    cases htext
  · rw [h] at hfault
    cases hfault
    exact hid hfaultId

/-- A reader of numbers fails on what is no numeral, and on nothing else but its range. -/
structure ReadsNumeral {α : Type} (numeral : String) (result : Except Fault α) : Prop where
  none : Binary64.read? numeral = none → result = .error (.notNumeral numeral)
  some : ∀ x, Binary64.read? numeral = some x →
    (∃ a, result = .ok a) ∨ ∃ fault, result = .error fault ∧ fault.id = "vE091"

theorem readsNumeral_truncateToInt (numeral : String) : ReadsNumeral numeral (truncateToInt numeral) where
  none h := by rw [truncateToInt, h]
  some x h := by
    rw [truncateToInt, h]
    dsimp only
    split
    · exact .inr ⟨_, rfl, rfl⟩
    · split
      · exact .inl ⟨_, rfl⟩
      · exact .inr ⟨_, rfl, rfl⟩

theorem readsNumeral_parseFiniteFloat (numeral : String) : ReadsNumeral numeral (parseFiniteFloat numeral) where
  none h := by rw [parseFiniteFloat, h]
  some x h := by
    rw [parseFiniteFloat, h]
    dsimp only
    split
    · exact .inl ⟨_, rfl⟩
    · exact .inr ⟨_, rfl, rfl⟩

/-- A conversion of a number goes by its digits. -/
theorem ReadsNumeral.converts_iff {α : Type} {numeral : String} {result : Except Fault α}
    (hreads : ReadsNumeral numeral result) (hnumeric : isNumeric numeral = true) {e : Evaluation} {text : α → String}
    (hrun : e.run.value = result.map fun a => .replaced (text a)) :
    (e.Converts ↔ AsciiDigits numeral.toList) ∧
      (e.run.value = .error (.notNumeral numeral) ↔ ¬ AsciiDigits numeral.toList) := by
  have hdecimal := read?_isSome_iff_of_isNumeric hnumeric
  have hread := binary64_read?_of_isNumeric hnumeric
  cases hd : Decimal.read? numeral.toList with
  | none =>
    rw [hd] at hdecimal hread
    have hfail : e.run.value = .error (.notNumeral numeral) := by
      rw [hrun, hreads.none hread]
      rfl
    have hdigits : ¬ AsciiDigits numeral.toList := fun h => absurd (hdecimal.2 h) Bool.false_ne_true
    exact ⟨iff_of_false (Evaluation.not_converts_of_notNumeral hfail) hdigits, iff_of_true hfail hdigits⟩
  | some d =>
    rw [hd] at hdecimal hread
    have hdigits : AsciiDigits numeral.toList := hdecimal.1 rfl
    have hconverts : e.Converts := by
      rw [Evaluation.Converts, hrun]
      rcases hreads.some _ hread with ⟨a, ha⟩ | ⟨fault, hf, hid⟩
      · exact .inl ⟨text a, by rw [ha]; rfl⟩
      · exact .inr ⟨fault, by rw [hf]; rfl, hid⟩
    exact ⟨iff_of_true hconverts hdigits,
      iff_of_false (fun hfail => Evaluation.not_converts_of_notNumeral hfail hconverts) (not_not_intro hdigits)⟩

/-- What is accepted as a number is converted, to a float or an integer, just if its digits are ASCII digits. Otherwise
the conversion finds that it is no number. -/
theorem accepted_converts_iff (scope : Scope) (values : List String) (v : String)
    (h : (Evaluation.mk scope (numberTest [] values) (.text v)).run.value = .ok .accepted) :
    ∀ m ∈ [Modifier.float, Modifier.integer],
      ((Evaluation.mk scope (numberTest [m] values) (.text v)).Converts ↔ AsciiDigits v.toList) ∧
        ((Evaluation.mk scope (numberTest [m] values) (.text v)).run.value =
          .error (.notNumeral (normalizeDecimal v)) ↔ ¬ AsciiDigits v.toList) := by
  have hnumeric := (number_accepted_iff scope values).1 h
  rw [← asciiDigits_normalizeDecimal]
  intro m hm
  rw [List.mem_pair] at hm
  rcases hm with rfl | rfl
  · exact (readsNumeral_parseFiniteFloat _).converts_iff hnumeric (value_run_float scope values hnumeric)
  · exact (readsNumeral_truncateToInt _).converts_iff hnumeric (value_run_integer scope values hnumeric)

/-- A price with a decimal comma. -/
theorem accepted_converts_iff_price :
    let scope : Scope := { collaborators := .mute }
    (Evaluation.mk scope (numberTest [] []) (.text " -3,25e1 ")).run.value = .ok .accepted ∧
      ∀ m ∈ [Modifier.float, Modifier.integer],
        (Evaluation.mk scope (numberTest [m] []) (.text " -3,25e1 ")).Converts := by
  intro scope
  have haccepted : (Evaluation.mk scope (numberTest [] []) (.text " -3,25e1 ")).run.value = .ok .accepted := by
    decide
  exact ⟨haccepted, fun m hm => ((accepted_converts_iff scope [] _ haccepted m hm).1).2 (by decide)⟩

/-- The digit three of another script is accepted as a number, and then neither conversion finds a number there. -/
theorem foreign_digit_unread :
    let scope : Scope := { collaborators := .mute }
    (Evaluation.mk scope (numberTest [] []) (.text "\u0663")).run.value = .ok .accepted ∧
      (Evaluation.mk scope (numberTest [.float] []) (.text "\u0663")).run.value = .error (.notNumeral "\u0663") ∧
      (Evaluation.mk scope (numberTest [.integer] []) (.text "\u0663")).run.value = .error (.notNumeral "\u0663") ∧
      (Fault.notNumeral "\u0663").id = "vE089" ∧
      ∀ m ∈ [Modifier.float, Modifier.integer],
        ¬ (Evaluation.mk scope (numberTest [m] []) (.text "\u0663")).Converts := by
  intro scope
  have hfloat : (Evaluation.mk scope (numberTest [.float] []) (.text "\u0663")).run.value =
      .error (.notNumeral "\u0663") := by decide
  have hinteger : (Evaluation.mk scope (numberTest [.integer] []) (.text "\u0663")).run.value =
      .error (.notNumeral "\u0663") := by decide
  refine ⟨by decide, hfloat, hinteger, rfl, fun m hm => ?_⟩
  rw [List.mem_pair] at hm
  rcases hm with rfl | rfl
  · exact Evaluation.not_converts_of_notNumeral hfloat
  · exact Evaluation.not_converts_of_notNumeral hinteger

end FieldRules
