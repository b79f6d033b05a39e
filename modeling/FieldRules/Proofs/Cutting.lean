import FieldRules.Proofs.Denial
import FieldRules.Proofs.Options
/-!
# A text cut to a length

The rule `length:cut:n` cuts a text to `n` characters or fills it up with spaces (`length_cutToLength`), and cleaning
trims what the rule made of it. So the spaces that were filled in are lost again, and so are blanks at the place of the
cut. What is delivered has the length of the rule just if nothing was filled in and the cut left no outer blanks
(`Validation.cut_delivered`).
-/

namespace FieldRules

open FieldRules.Text

/-! ## Cutting and trimming -/

theorem toList_cutToLength (s : String) (n : Nat) :
    (cutToLength s n).toList = s.toList.take n ++ List.replicate (n - s.length) ' ' := by
  have hlength : n - (s.toList.take n).length = n - s.length := by
    rw [List.length_take, String.length_toList]
    omega
  rw [cutToLength, String.toList_ofList, hlength]

theorem length_cutToLength (s : String) (n : Nat) : (cutToLength s n).length = n := by
  rw [← String.length_toList, toList_cutToLength, List.length_append, List.length_take, List.length_replicate,
    String.length_toList]
  omega

theorem cutToLength_of_le {s : String} {n : Nat} (h : n ≤ s.length) :
    cutToLength s n = String.ofList (s.toList.take n) := by
  rw [← String.toList_inj, toList_cutToLength, Nat.sub_eq_zero_of_le h]
  simp

theorem cutToLength_of_length {s : String} {n : Nat} (h : s.length = n) : cutToLength s n = s := by
  have htake : s.toList.take n = s.toList := List.take_of_length_le (by rw [String.length_toList, h])
  rw [cutToLength_of_le h.ge, htake, String.ofList_toList]

/-- Spaces that were filled in are outer blanks. -/
theorem trim_cutToLength_ne {s : String} {n : Nat} (h : s.length < n) : trim (cutToLength s n) ≠ cutToLength s n := by
  intro htrim
  have hlast : (cutToLength s n).toList.getLast? = some ' ' := by
    have hne : n - s.length ≠ 0 := by omega
    rw [toList_cutToLength, List.getLast?_append, List.getLast?_replicate, if_neg hne]
    rfl
  have hblank := (trim_eq_self_iff.1 htrim).last ' ' hlast
  cases hblank

theorem length_trim_eq_iff {s : String} : (trim s).length = s.length ↔ trim s = s := by
  constructor
  · intro h
    have hinfix := trimChars_isInfix s.toList
    rw [← toList_trim] at hinfix
    rw [← String.toList_inj]
    apply hinfix.eq_of_length
    rw [String.length_toList, String.length_toList, h]
  · intro h
    rw [h]

/-- Trimming leaves the length of a cut text just if nothing was filled in and no blank stands at an end of it. -/
theorem length_trim_cutToLength {s : String} {n : Nat} : (trim (cutToLength s n)).length = n ↔
    n ≤ s.length ∧ Trimmed (s.toList.take n) := by
  have hlength : (trim (cutToLength s n)).length = n ↔ trim (cutToLength s n) = cutToLength s n := by
    rw [← length_trim_eq_iff, length_cutToLength]
  rw [hlength]
  by_cases h : n ≤ s.length
  · rw [trim_eq_self_iff, cutToLength_of_le h, String.toList_ofList]
    simp [h]
  · have hne := trim_cutToLength_ne (Nat.lt_of_not_le h)
    simp [h, hne]

/-! ## The rule -/

theorem plainArgument_showNat (n : Nat) : PlainArgument (showNat n) := by
  have hnot : ∀ c, isAsciiDigit c = false → c ∉ (showNat n).toList := by
    intro c hc hm
    rw [isAsciiDigit_of_mem_showNat hm] at hc
    cases hc
  have hblank : ∀ c ∈ (showNat n).toList, isBlank c = false := fun c hm =>
    not_isBlank_of_isAsciiDigit (isAsciiDigit_of_mem_showNat hm)
  have hignore : mentionsIgnore (showNat n) = false := by
    rw [← String.ofList_toList (s := showNat n)]
    apply mentionsIgnore_of_forall
    intro c hc hi
    have hdigit := not_isAsciiLetter_of_isAsciiDigit (isAsciiDigit_of_mem_showNat hc)
    rw [isAsciiLetter_of_toLower (hi ▸ by decide)] at hdigit
    cases hdigit
  exact {
    ne_empty := by simp [showNat, Nat.toDigits_ne_nil]
    trimmed := trim_eq_self_iff.2
      ⟨fun c hc => hblank c (List.mem_of_mem_head? hc), fun c hc => hblank c (List.mem_of_mem_getLast? hc)⟩
    no_comma := hnot _ rfl
    no_semicolon := hnot _ rfl
    no_bar := hnot _ rfl
    no_unit := hnot _ rfl
    no_ignore := hignore }

/-- The rule that cuts a text to a length. -/
def cutRule (n : Nat) : FieldRule := {
  checks := [{ test := .length, modifiers := [.cut], values := [showNat n] }] }

theorem ofTokens_cut (n : Nat) : FieldRule.ofTokens (tokenize ("length:cut:" ++ showNat n)) = .ok (cutRule n) := by
  have hname : PlainName "length" := by constructor <;> decide
  have hword : PlainName "cut" := by constructor <;> decide
  have hcell : "length:cut:" ++ showNat n = namedCell "length" (namedCell "cut" (showNat n)) := by
    simp [namedCell, ← String.toList_inj]
  have htest : Test.ofName "length" = .length := by decide
  have hnames : namesModifiers .length "cut" = true := by decide
  have hmodifiers : splitModifiers .length "cut" = [.cut] := by decide
  rw [hcell, tokenize_modified hname hword (plainArgument_showNat n) htest hnames, hmodifiers]
  rfl

theorem parseCount_showNat (test : String) (n : Nat) : parseCount test (showNat n) =
    if n < bound64 then .ok n else .error (.notCount test (showNat n)) := by
  rw [parseCount, (plainArgument_showNat n).trimmed, nat64?, natBelow?_showNat_eq]
  by_cases h : n < bound64 <;> simp [h]

/-- The check cuts every text that was submitted, if its length can be counted with. -/
theorem length_cut (n : Nat) (v : String) :
    Check.length { test := .length, modifiers := [.cut], values := [showNat n] } (.text v) =
      if n < bound64 then .ok (if v.length = n then .accepted else .replaced (cutToLength v n))
      else .error (.notCount Test.length.name (showNat n)) := by
  have hcut : Token.has { test := .length, modifiers := [.cut], values := [showNat n] } .cut = true := rfl
  unfold Check.length Check.lengthBounds
  simp only [parseCount_showNat]
  by_cases h : n < bound64
  · simp only [if_pos h, bind, Except.bind, pure, Except.pure, Subject.expectText, Subject.shown?, hcut, if_true, ite_self]
    by_cases hv : v.length = n
    · simp [hv]
    · have hne : ¬ (n ≤ v.length ∧ v.length ≤ n) := by omega
      simp [hv, hne]
  · simp only [if_neg h, bind, Except.bind]

/-! ## The call -/

/-- What the rule finds wrong with a length that cannot be counted with. -/
def cutFailure (name : String) (n : Nat) : Failure :=
  { fault := .notCount Test.length.name (showNat n), field := some name }

/-- The walk of a text by the rule cuts it. -/
theorem Walk.fields_cut (scope : Scope) (name : String) (n : Nat) {v : String} (hv : isUnset v = false) :
    (fields scope [(name, cutRule n)] [(name, .text v)]).value =
      if n < bound64 then ⟨[(name, .text (cutToLength v n))], .ok [⟨[name], []⟩]⟩
      else ⟨[(name, .text v)], .error (cutFailure name n)⟩ := by
  have hget : Keyed.get? [(name, Value.text v)] name = some (.text v) := by simp [Keyed.get?]
  have hevaluate : (Check.evaluate scope { test := .length, modifiers := [.cut], values := [showNat n] }
      (.ofValue (.text v))).outcome.value =
        Check.length { test := .length, modifiers := [.cut], values := [showNat n] } (.text v) := by
    have hfind : [Modifier.cut].find? (fun m => !Test.length.supports m) = none := by decide
    have hunset : (Subject.ofValue (.text v)).isUnset = false := hv
    simp only [Check.evaluate, hfind, hunset, Bool.and_false, Bool.false_eq_true, if_false]
    rfl
  rw [fields_singleton rfl hget]
  have hpath : pathText [name] = name := by simp [pathText, Text.join]
  have hleaf : (leaf scope (cutRule n).checks [] [name] (.text v)).value =
      if n < bound64 then ⟨.text (cutToLength v n), .ok [⟨[name], []⟩]⟩
      else ⟨.text v, .error (cutFailure name n)⟩ := by
    rw [leaf, cutRule, checkLeaf, Traced.value_bind, Traced.value_bind, hevaluate, length_cut]
    by_cases h : n < bound64
    · by_cases hlength : v.length = n
      · simp [h, hlength, checkLeaf, Outcome.update, Traced.silent, cutToLength_of_length hlength]
      · simp [h, hlength, checkLeaf, Outcome.update, Traced.silent]
    · simp [h, hpath, cutFailure]
  have hfield : field scope (cutRule n) [name] (.text v) = leaf scope (cutRule n).checks [] [name] (.text v) := rfl
  rw [hfield]
  dsimp only
  rw [hleaf]
  by_cases h : n < bound64 <;> simp [h, Keyed.put]

namespace Validation

variable {engine : Validation} {rules : List (String × Json)} {name v : String} {n : Nat}

/-- A call with one text and the rule that cuts it ends with the cut text, or with a length that cannot be counted. -/
theorem value_validateTree_cut (hrules : withoutPolicy rules = [(name, .string ("length:cut:" ++ showNat n))])
    {policy : Policy} (hpolicy : engine.policy (splitRules rules).1 = .ok policy) (hv : isUnset v = false) :
    (engine.validateTree (.map [(name, .text v)]) (.object rules)).value =
      if n < bound64 then
        .ok (.valid (.map ((policy.deliverText? (cutToLength v n)).toList.map fun t => (name, .text t))))
      else (engine.conclude (cutFailure name n)).value := by
  have hdeliver := @deliver_text policy name (ne_policyKey_of_one hrules) (cutRule n) rfl (cutToLength v n)
  rw [value_validateTree_of_one hrules hpolicy (ofTokens_cut n), RuleSet.prefill_one,
    Walk.fields_cut _ _ _ hv]
  by_cases h : n < bound64
  · have hfinish : finish policy [(name, cutRule n)] ⟨[(name, .text (cutToLength v n))], .ok [⟨[name], []⟩]⟩ =
        .ok (deliver policy [(name, cutRule n)] (.map [(name, .text (cutToLength v n))])) := by
      simp [finish, Walk.plan, Plan.note, Plan.performTree, Plan.performAll, bind, Except.bind, pure, Except.pure]
    rw [if_pos h, if_pos h, hfinish, hdeliver]
  · rw [if_neg h, if_neg h]
    rfl

/-- What is delivered of a text if it is neither escaped nor stripped. -/
theorem deliverText?_plain (s : String) : Policy.deliverText? ⟨false, false⟩ s =
    if isBlankText (trim s) then none else some (if trim s = notNullMark then "" else trim s) := by
  have hclean : Policy.cleanText ⟨false, false⟩ s = trim s := Policy.cleanText_eq _ s
  rw [Policy.deliverText?, hclean]
  simp

/-- A delivered text has the length of the rule just if the submitted text has that many characters, and the first of
them are delivered as they are. -/
theorem length_deliverText?_cut (hn : 0 < n) :
    (∃ t, Policy.deliverText? ⟨false, false⟩ (cutToLength v n) = some t ∧ t.length = n) ↔
      n ≤ v.length ∧ Trimmed (v.toList.take n) ∧
        String.ofList (v.toList.take n) ∉ [emptyMark, emptyPlaceholder, notNullMark] := by
  rw [← and_assoc, ← length_trim_cutToLength]
  have hkept : (trim (cutToLength v n)).length = n → trim (cutToLength v n) = String.ofList (v.toList.take n) := by
    intro hlength
    have hself : trim (cutToLength v n) = cutToLength v n := length_trim_eq_iff.1 (by rw [hlength, length_cutToLength])
    rw [hself, cutToLength_of_le (length_trim_cutToLength.1 hlength).1]
  rw [deliverText?_plain]
  constructor
  · rintro ⟨t, ht, hlength⟩
    split at ht
    · cases ht
    · rename_i hsays
      obtain rfl := Option.some.inj ht
      split at hlength
      · exact absurd hlength hn.ne
      · rename_i hmark
        refine ⟨hlength, ?_⟩
        simp only [isBlankText, Bool.or_eq_true, beq_iff_eq, not_or] at hsays
        simp [← hkept hlength, hmark, hsays]
  · rintro ⟨hlength, hreserved⟩
    rw [← hkept hlength] at hreserved
    simp only [List.mem_cons, List.not_mem_nil, or_false, not_or] at hreserved
    have hne : trim (cutToLength v n) ≠ "" := by
      intro he
      rw [he] at hlength
      exact absurd hlength hn.ne
    refine ⟨trim (cutToLength v n), ?_, hlength⟩
    simp [isBlankText, trim_trim, hne, hreserved]

end Validation

end FieldRules
