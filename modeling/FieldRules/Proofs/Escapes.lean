import FieldRules.Proofs.Splitting
import FieldRules.Rule.PatternStash
import Mathlib.Data.List.Basic
/-!
# Escaped delimiters

A backslash escapes the character behind it, unless it is escaped itself. The scan for a closing delimiter finds the
first one that is not escaped (`cutClosing_eq_some_iff`), and nothing just if each of them is (`cutClosing_eq_none_iff`).
-/

namespace FieldRules.Pattern

/-- Does a text end in a backslash that escapes what follows, that is in a run of backslashes of odd length? -/
def endsEscaping (cs : List Char) : Bool := (cs.reverse.takeWhile (· == '\\')).length % 2 == 1

/-- Is each `close` in a text escaped? -/
def EscapesEach (close : Char) (cs : List Char) : Prop :=
  ∀ i < cs.length, cs[i]? = some close → endsEscaping (cs.take i) = true

instance (close : Char) (cs : List Char) : Decidable (EscapesEach close cs) :=
  inferInstanceAs (Decidable (∀ i < cs.length, cs[i]? = some close → endsEscaping (cs.take i) = true))

/-- Is a pattern bare, or closed by a delimiter that is not escaped? -/
def Closed (pattern : String) : Prop :=
  ∀ c cs, pattern.toList = c :: cs → isDelimiter c = true → ¬ EscapesEach c cs

theorem endsEscaping_cons {c : Char} (h : c ≠ '\\') (cs : List Char) : endsEscaping (c :: cs) = endsEscaping cs := by
  simp only [endsEscaping, List.reverse_cons, List.takeWhile_append]
  split
  · rename_i hall
    simp [h, hall]
  · rfl

theorem endsEscaping_pair (c : Char) (cs : List Char) : endsEscaping ('\\' :: c :: cs) = endsEscaping cs := by
  by_cases hc : c = '\\'
  · simp only [endsEscaping, hc, List.reverse_cons, List.append_assoc, List.takeWhile_append]
    split
    · rename_i hall
      simp [hall]
    · rfl
  · simp only [endsEscaping, List.reverse_cons, List.append_assoc, List.takeWhile_append]
    split
    · rename_i hall
      simp [hc, hall]
    · rfl

section
variable {close : Char}

theorem escapesEach_nil : EscapesEach close [] := by
  intro i hi
  simp at hi

theorem EscapesEach.of_prefix {xs cs : List Char} (h : EscapesEach close cs) (hxs : xs <+: cs) :
    EscapesEach close xs := by
  obtain ⟨tail, rfl⟩ := hxs
  intro i hi hclose
  have hi' := h i (by simp; omega) (by rw [List.getElem?_append_left hi, hclose])
  rwa [List.take_append_of_le_length (Nat.le_of_lt hi)] at hi'

/-- A delimiter behind an escaping backslash closes nothing. -/
theorem EscapesEach.append_cons {body rest : List Char} (h : EscapesEach close body) (hend : endsEscaping body = true)
    (hrest : close ∉ rest) : EscapesEach close (body ++ close :: rest) := by
  intro i hi hclose
  -- The delimiter stands in the body, is the one behind it, or stands further on, where there is none.
  rcases Nat.lt_trichotomy i body.length with hlt | rfl | hgt
  · rw [List.getElem?_append_left hlt] at hclose
    rw [List.take_append_of_le_length (Nat.le_of_lt hlt)]
    exact h i hlt hclose
  · rwa [List.take_left]
  · obtain ⟨j, rfl⟩ : ∃ j, i = body.length + (j + 1) := ⟨i - body.length - 1, by omega⟩
    rw [List.getElem?_append_right (by omega), Nat.add_sub_cancel_left, List.getElem?_cons_succ] at hclose
    exact absurd (List.mem_of_getElem? hclose) hrest

theorem escapesEach_cons {c : Char} (hc : c ≠ '\\') {cs : List Char} :
    EscapesEach close (c :: cs) ↔ c ≠ close ∧ EscapesEach close cs := by
  constructor
  · intro h
    refine ⟨fun he => ?_, fun i hi hclose => ?_⟩
    · simpa [endsEscaping] using h 0 (by simp) (by simp [he])
    · have hi := h (i + 1) (by simpa using hi) (by simpa using hclose)
      rwa [List.take_succ_cons, endsEscaping_cons hc] at hi
  · rintro ⟨hne, h⟩ i hi hclose
    cases i with
    | zero => exact absurd (by simpa using hclose) hne
    | succ i =>
      rw [List.take_succ_cons, endsEscaping_cons hc]
      exact h i (by simpa using hi) (by simpa using hclose)

section
variable (hclose : close ≠ '\\')
include hclose

theorem escapesEach_backslash : EscapesEach close ['\\'] := by
  intro i hi he
  obtain rfl : i = 0 := by simpa using hi
  exact absurd (by simpa using he.symm) hclose

theorem escapesEach_pair {c : Char} {cs : List Char} :
    EscapesEach close ('\\' :: c :: cs) ↔ EscapesEach close cs := by
  constructor
  · intro h i hi he
    have hi := h (i + 2) (by simpa using hi) (by simpa using he)
    rwa [List.take_succ_cons, List.take_succ_cons, endsEscaping_pair] at hi
  · intro h i hi he
    match i with
    | 0 => exact absurd (by simpa using he.symm) hclose
    | 1 => rfl
    | i + 2 =>
      rw [List.take_succ_cons, List.take_succ_cons, endsEscaping_pair]
      exact h i (by simpa using hi) (by simpa using he)

end

end

end FieldRules.Pattern

namespace FieldRules.PatternStash

open FieldRules.Pattern

section
variable {close : Char} (hclose : close ≠ '\\')
include hclose

/-- The scan passes over a text whose delimiters are all escaped, and stops at the first that is not. -/
theorem cutClosing_append {body : List Char} (hbody : EscapesEach close body) (hend : endsEscaping body = false)
    (rest : List Char) : cutClosing close (body ++ close :: rest) = some (body ++ [close], rest) := by
  -- The scan goes over a backslash and what is behind it as one, and neither notion of escape sees such a pair.
  fun_induction cutClosing close body with
  | case1 => simp [cutClosing]
  | case2 => cases hend
  | case3 c cs ih =>
    rw [escapesEach_pair hclose] at hbody
    rw [endsEscaping_pair] at hend
    simp [cutClosing, ih hbody hend]
  | case4 c cs hc he =>
    rw [escapesEach_cons hc] at hbody
    exact absurd (by simpa using he) hbody.1
  | case5 c cs hc he ih =>
    rw [escapesEach_cons hc] at hbody
    rw [endsEscaping_cons hc] at hend
    simp [cutClosing, he, ih hbody.2 hend]

theorem cutClosing_eq_some_iff {cs body rest : List Char} : cutClosing close cs = some (body, rest) ↔
    ∃ inner, body = inner ++ [close] ∧ cs = inner ++ close :: rest ∧ EscapesEach close inner ∧
      endsEscaping inner = false := by
  constructor
  · intro h
    fun_induction cutClosing close cs generalizing body with
    | case1 => cases h
    | case2 => cases h
    | case3 c cs ih =>
      obtain ⟨⟨x, y⟩, hcut, he⟩ := Option.map_eq_some_iff.1 h
      cases he
      obtain ⟨inner, rfl, rfl, heach, hend⟩ := ih hcut
      refine ⟨'\\' :: c :: inner, rfl, rfl, (escapesEach_pair hclose).2 heach, ?_⟩
      rw [endsEscaping_pair, hend]
    | case4 c cs hc he =>
      cases h
      obtain rfl : c = close := by simpa using he
      exact ⟨[], rfl, rfl, escapesEach_nil, rfl⟩
    | case5 c cs hc he ih =>
      obtain ⟨⟨x, y⟩, hcut, heq⟩ := Option.map_eq_some_iff.1 h
      cases heq
      obtain ⟨inner, rfl, rfl, heach, hend⟩ := ih hcut
      have hne : c ≠ close := by simpa using he
      refine ⟨c :: inner, rfl, rfl, (escapesEach_cons hc).2 ⟨hne, heach⟩, ?_⟩
      rw [endsEscaping_cons hc, hend]
  · rintro ⟨inner, rfl, rfl, heach, hend⟩
    exact cutClosing_append hclose heach hend rest

theorem cutClosing_eq_none_iff {cs : List Char} : cutClosing close cs = none ↔ EscapesEach close cs := by
  constructor
  · intro h
    fun_induction cutClosing close cs with
    | case1 => exact escapesEach_nil
    | case2 => exact escapesEach_backslash hclose
    | case3 c cs ih => exact (escapesEach_pair hclose).2 (ih (by simpa using h))
    | case4 c cs hc he => cases h
    | case5 c cs hc he ih =>
      have hne : c ≠ close := by simpa using he
      exact (escapesEach_cons hc).2 ⟨hne, ih (by simpa using h)⟩
  · intro h
    rw [Option.eq_none_iff_forall_not_mem]
    rintro ⟨body, rest⟩ hcut
    obtain ⟨inner, -, rfl, -, hend⟩ := (cutClosing_eq_some_iff hclose).1 hcut
    have hescaped := h inner.length (by simp) (by simp)
    rw [List.take_left, hend] at hescaped
    cases hescaped

end

/-! ## Where a delimited pattern ends -/

section
variable {c : Char} (hc : isDelimiter c = true)
include hc

theorem ne_backslash_of_isDelimiter : c ≠ '\\' := by
  rintro rfl
  cases hc

theorem not_isBlank_of_isDelimiter : Text.isBlank c = false := by
  have hall : delimiters.all (fun c => !Text.isBlank c) = true := by decide
  simpa using List.all_eq_true.1 hall c (List.contains_iff_mem.1 hc)

theorem not_isAsciiLetter_of_isDelimiter : Text.isAsciiLetter c = false := by
  have hall : delimiters.all (fun c => !Text.isAsciiLetter c) = true := by decide
  simpa using List.all_eq_true.1 hall c (List.contains_iff_mem.1 hc)

theorem trimStartChars_delimited (cs : List Char) : Text.trimStartChars (c :: cs) = c :: cs := by
  simp [Text.trimStartChars, not_isBlank_of_isDelimiter hc]

/-- A delimiter and the letters behind it end in no blank. -/
theorem trimEndChars_delimited {flags : List Char} (hletters : ∀ d ∈ flags, Text.isAsciiLetter d = true)
    (cs : List Char) : Text.trimEndChars (cs ++ c :: flags) = cs ++ c :: flags := by
  have hlast : ∀ d ∈ flags.getLast?, Text.isBlank d = false := fun d hd =>
    Text.not_isBlank_of_isAsciiLetter (hletters d (List.mem_of_mem_getLast? hd))
  have hflags := Text.trimEndChars_run hlast (List.forall_mem_nil fun d => Text.isBlank d = true)
  rw [List.append_nil] at hflags
  rw [Text.trimEndChars_append_cons (not_isBlank_of_isDelimiter hc), hflags]

/-- A delimited pattern ends with the letters behind its first delimiter that is not escaped. -/
theorem cutPattern_closed {body : List Char} (hbody : EscapesEach c body) (hend : endsEscaping body = false)
    (rest : List Char) : cutPattern (c :: (body ++ c :: rest)) =
      (c :: (body ++ c :: rest.takeWhile Text.isAsciiLetter), rest.dropWhile Text.isAsciiLetter) := by
  have hcut := cutClosing_append (ne_backslash_of_isDelimiter hc) hbody hend rest
  simp [cutPattern, hc, hcut]

/-- A delimited pattern that is never closed is all that follows. -/
theorem cutPattern_unclosed {cs : List Char} (h : EscapesEach c cs) : cutPattern (c :: cs) = (c :: cs, []) := by
  have hcut := (cutClosing_eq_none_iff (ne_backslash_of_isDelimiter hc)).2 h
  simp [cutPattern, hc, hcut]

/-- A text that does not escape each delimiter has a first one that it does not escape. -/
theorem exists_closing {cs : List Char} (h : ¬ EscapesEach c cs) :
    ∃ body rest, cs = body ++ c :: rest ∧ EscapesEach c body ∧ endsEscaping body = false := by
  have hslash := ne_backslash_of_isDelimiter hc
  rw [← cutClosing_eq_none_iff hslash, ← ne_eq, Option.ne_none_iff_exists'] at h
  obtain ⟨⟨x, rest⟩, hcut⟩ := h
  obtain ⟨body, -, hcs, hbody, hend⟩ := (cutClosing_eq_some_iff hslash).1 hcut
  exact ⟨body, rest, hcs, hbody, hend⟩

end

/-- Cutting a pattern off loses nothing. -/
theorem cutPattern_append_eq (cs : List Char) : (cutPattern cs).1 ++ (cutPattern cs).2 = cs := by
  cases cs with
  | nil => rfl
  | cons c cs =>
    by_cases hc : isDelimiter c = true
    · by_cases h : EscapesEach c cs
      · rw [cutPattern_unclosed hc h, List.append_nil]
      · obtain ⟨body, rest, rfl, hbody, hend⟩ := exists_closing hc h
        rw [cutPattern_closed hc hbody hend]
        simp
    · simp [cutPattern, hc, splitBefore]

end FieldRules.PatternStash
