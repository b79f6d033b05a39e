import FieldRules.Proofs.Delivery
/-!
# Texts that a rule forbids

A rule may forbid one text. It judges what was submitted, and what is delivered has been cleaned since; so the
forbidden text is never accepted, and it is delivered just if cleaning makes it of another text (`denied_iff`).
-/

namespace FieldRules

/-! ## Cleaning to a given text -/

namespace Policy

/-- A text with neither outer blanks nor `<` is left as it is by the steps before escaping. -/
theorem plainText_eq_self {s : String} (htrim : Text.trim s = s) (hs : '<' ∉ s.toList) (policy : Policy) :
    policy.plainText s = s := by
  simp [plainText, htrim, Markup.strip, Markup.stripChars_of_not_mem hs]

theorem plainText_of_isUnset {s : String} (h : isUnset s = true) (policy : Policy) : policy.plainText s = s := by
  have hs : s = "" ∨ s = emptyMark := by simpa [isUnset] using h
  rcases hs with rfl | rfl
  · exact plainText_eq_self (by decide) (by decide) policy
  · exact plainText_eq_self (by decide) (by decide) policy

/-- Escaping is the last step of cleaning. -/
theorem cleanText_eq (policy : Policy) (s : String) : policy.cleanText s =
    if policy.html then Markup.escape (policy.plainText s) else policy.plainText s := by
  by_cases hs : s = notNullMark
  · -- The mark has neither blanks nor markup, so the steps leave it as it is.
    have hplain : policy.plainText notNullMark = notNullMark := plainText_eq_self (by decide) (by decide) policy
    have hescape : Markup.escape notNullMark = notNullMark := by cbv
    have hclean : policy.cleanText notNullMark = notNullMark := by simp [cleanText]
    rw [hs, hclean, hplain, hescape, ite_self]
  · have hs : (s == notNullMark) = false := by simpa using hs
    simp only [cleanText, hs, plainText, Bool.false_eq_true, if_false]

/-- A text that says nothing to a page comes of cleaning just if it comes of the steps before escaping. -/
theorem cleanText_eq_iff {policy : Policy} {s x : String} (hx : ∀ c ∈ x.toList, c ∉ Markup.special) :
    policy.cleanText s = x ↔ policy.plainText s = x := by
  rw [cleanText_eq]
  split
  · rw [← String.toList_inj, Markup.escape, String.toList_ofList, Markup.escapeChars_eq_iff hx, String.toList_inj]
  · rfl

/-- A plain text is delivered of a text just if it comes of the steps before escaping and is no reserved text. -/
theorem deliverText?_eq_plain {policy : Policy} {s x : String} (hx : PlainArgument x)
    (hplain : ∀ c ∈ x.toList, c ∉ Markup.special) : policy.deliverText? s = some x ↔
      policy.plainText s = x ∧ x ∉ [emptyMark, emptyPlaceholder, notNullMark] := by
  rw [deliverText?_eq_some, ← cleanText_eq_iff hplain]
  constructor
  · rintro ⟨hblank, he⟩
    split at he
    · exact absurd he hx.ne_empty
    · rename_i hmark
      refine ⟨he.symm, ?_⟩
      rw [← he] at hblank hmark
      simp only [isBlankText, Bool.or_eq_false_iff, beq_eq_false_iff_ne] at hblank
      simp [hblank.1.2, hblank.2, hmark]
  · rintro ⟨he, hreserved⟩
    simp only [List.mem_cons, List.not_mem_nil, or_false, not_or] at hreserved
    rw [he, if_neg hreserved.2.2]
    refine ⟨?_, rfl⟩
    simp [isBlankText, hx.trimmed, hx.ne_empty, hreserved.1, hreserved.2.1]

end Policy

/-! ## One text and one rule -/

namespace Validation

variable {engine : Validation}

/-- A test without modifiers passes over what was not submitted, and judges the rest. -/
theorem value_evaluate {test : Test} (h : test.judgesEmpty = false) (scope : Scope) (values : List String)
    (s : Subject) : (Check.evaluate scope { test, values } s).outcome.value =
      if s.isUnset then .ok .empty else (Check.judge scope { test, values } s).outcome.value := by
  simp only [Check.evaluate, List.find?_nil, h, Bool.not_false, Bool.true_and]
  split <;> rfl

/-! ## A rule that forbids one text -/

/-- The tests that forbid a text. -/
def Denies (test : Test) : Prop := test = .nequal ∨ test = .nenum

/-- The rule that forbids one text. -/
def denialRule (test : Test) (x : String) : FieldRule := { checks := [{ test, values := [x] }] }

/-- What such a rule finds. -/
def denial (test : Test) (x : String) : Fault := if test = .nenum then .listed [x] else .forbidden x

section
variable {test : Test} (ht : Denies test)
include ht

theorem ofTokens_denial (x : String) :
    FieldRule.ofTokens [{ test, values := [x] }] = .ok (denialRule test x) := by
  rcases ht with rfl | rfl <;> rfl

/-- The test refuses the text that it forbids and no other. What was not submitted is passed over. -/
theorem evaluate_denial (engine : Validation) (x v : String) :
    (Check.evaluate engine.scope { test, values := [x] } (.text v)).outcome.value =
      if isUnset v then .ok .empty else if v = x then .error (denial test x) else .ok .accepted := by
  have hjoin : ∀ s : String, Text.join "," [s] = s := by simp [Text.join]
  have hnequal : Check.nequal { test := .nequal, values := [x] } (.text v) =
      if v = x then .error (.forbidden x) else .ok .accepted := by
    by_cases hv : v = x <;>
      simp [Check.nequal, Token.joinedValue, hjoin, Subject.shown?, accept, hv, bind, Except.bind]
  have hsubmitted : Check.submitted engine.scope.stash (.text v) = [v] := by
    unfold Check.submitted
    split
    · rename_i h
      cases h
    · rfl
  have hnenum : Check.nenum engine.scope { test := .nenum, values := [x] } (.text v) =
      if v = x then .error (.listed [x]) else .ok .accepted := by
    unfold Check.nenum Check.isMember
    rw [hsubmitted]
    by_cases hv : v = x <;>
      simp [Relation.ofToken, Token.has, Relation.holds, hjoin, accept, hv, bind, Except.bind]
  rcases ht with rfl | rfl
  · rw [value_evaluate rfl]
    exact congrArg (fun r => if isUnset v then .ok .empty else r) hnequal
  · rw [value_evaluate rfl]
    exact congrArg (fun r => if isUnset v then .ok .empty else r) hnenum

/-- The check of a text by such a rule. -/
theorem checkLeaf_denial (x v : String) :
    (Walk.checkLeaf engine.scope ["value"] (denialRule test x).checks (.text v)).value =
      if isUnset v then (Value.empty, none)
      else (.text v, if v = x then some { fault := denial test x, field := some "value" } else none) := by
  have hvalue := evaluate_denial ht engine x v
  rw [denialRule, Walk.checkLeaf, Traced.value_bind]
  rw [show Subject.ofValue (.text v) = .text v from rfl, hvalue]
  cases isUnset v with
  | true => rfl
  | false => by_cases hv : v = x <;> simp only [hv, if_true, if_false, Bool.false_eq_true] <;> rfl

/-- The verdict on a text by a rule that forbids one text. -/
theorem value_validateValue_denial (engine : Validation) {text x : String}
    (hread : tokenize text = [{ test, values := [x] }]) (v : String) :
    (engine.validateValue v text).value =
      if v = x ∧ isUnset v = false then (engine.conclude { fault := denial test x, field := some "value" }).value
      else .ok (.valid (.map ((engine.settings.policy.deliverText? (if isUnset v then emptyMark else v)).toList.map
        fun t => ("value", .text t)))) := by
  have hrule : FieldRule.ofTokens (tokenize text) = .ok (denialRule test x) := by
    rw [hread]
    exact ofTokens_denial ht x
  have hdeliver : ∀ s, deliver engine.settings.policy [("value", denialRule test x)] (.map [("value", .text s)]) =
      .map ((engine.settings.policy.deliverText? s).toList.map fun t => ("value", .text t)) := deliver_value rfl
  have hacts : ∀ w, Deferred.actAll (denialRule test x).acts w = (w, none) := fun _ => rfl
  rw [value_validateValue_of_rule hrule rfl, FieldRule.result, checkLeaf_denial ht]
  cases isUnset v with
  | true => simp [hacts, Value.empty, hdeliver]
  | false => by_cases hv : v = x <;> simp [hacts, hv, hdeliver]

end

/-- No word names a modifier of a test that has none. -/
theorem namesModifiers_of_not_knows {test : Test} (h : ∀ word, test.knows word = false) (s : String) :
    namesModifiers test s = false := by
  unfold namesModifiers
  cases (Text.pieces ',' s).map Text.trim with
  | nil => rfl
  | cons word words => simp [h]

/-- The rule that forbids a plain text is read as what it says. -/
theorem exists_denial {name x : String} (hname : name = "nequal" ∨ name = "nenum" ∧
      ∀ head tail, Text.cutOnce ':' x = some (head, tail) → namesModifiers .nenum head = false)
    (hx : PlainArgument x) : ∃ test, Denies test ∧ tokenize (namedCell name x) = [{ test, values := [x] }] := by
  rcases hname with rfl | ⟨rfl, hscalar⟩
  · have hn : PlainName "nequal" := by constructor <;> decide
    have htest : Test.ofName "nequal" = .nequal := by decide
    exact ⟨.nequal, .inl rfl, tokenize_named hn hx htest rfl fun head _ _ =>
      namesModifiers_of_not_knows (fun _ => rfl) head⟩
  · have hn : PlainName "nenum" := by constructor <;> decide
    have htest : Test.ofName "nenum" = .nenum := by decide
    exact ⟨.nenum, .inr rfl, tokenize_named hn hx htest rfl hscalar⟩

section
variable {test : Test} (ht : Denies test) (engine : Validation) {text x : String}
  (hread : tokenize text = [{ test, values := [x] }]) (hx : PlainArgument x)
include ht hread hx

/-- The rule refuses the text that it forbids, and no other. -/
theorem accepts_iff_of_denies (v : String) :
    (∃ data, (engine.validateValue v text).value = .ok (.valid data)) ↔ v ≠ x ∨ x = emptyMark := by
  have hunset : isUnset x = true ↔ x = emptyMark := by simp [isUnset, hx.ne_empty]
  rw [value_validateValue_denial ht engine hread]
  split
  · rename_i hrefused
    obtain ⟨rfl, hset⟩ := hrefused
    have hne : v ≠ emptyMark := fun he => by simp [hunset.2 he] at hset
    simpa [hne] using fun data => conclude_ne_valid _
  · rename_i hrefused
    refine ⟨fun _ => ?_, fun _ => ⟨_, rfl⟩⟩
    by_cases hv : v = x
    · exact .inr (hunset.1 (by simpa [hv] using hrefused))
    · exact .inl hv

/-- The rule sees what was submitted, so the text that it forbids may be what cleaning leaves of another. -/
theorem delivers_iff_of_denies (hplain : ∀ c ∈ x.toList, c ∉ Markup.special) {v : String} {data : Value}
    (h : (engine.validateValue v text).value = .ok (.valid data)) : ∃ out, data = .map out ∧
      (Keyed.get? out "value" = some (.text x) ↔ v ≠ x ∧ engine.settings.policy.plainText v = x ∧
        x ∉ [emptyMark, emptyPlaceholder, notNullMark]) := by
  rw [value_validateValue_denial ht engine hread] at h
  split at h
  · exact absurd h (conclude_ne_valid _)
  · rename_i hrefused
    cases h
    refine ⟨_, rfl, ?_⟩
    have htext : ∀ o : Option String, o.map Value.text = some (.text x) ↔ o = some x := by
      rintro (_ | t) <;> simp
    rw [Keyed.get?_toList_map, htext, Policy.deliverText?_eq_plain hx hplain]
    cases hset : isUnset v with
    | false =>
      have hv : v ≠ x := fun he => hrefused ⟨he, hset⟩
      simp [hv]
    | true =>
      -- What was not submitted is delivered as nothing, and what cleaning leaves of it is empty or reserved.
      rw [if_pos rfl, Policy.plainText_of_isUnset (by decide), Policy.plainText_of_isUnset hset]
      constructor
      · rintro ⟨rfl, hreserved⟩
        exact absurd List.mem_cons_self hreserved
      · rintro ⟨hne, he, -⟩
        exact absurd he hne

end

/-- A rule that forbids one text refuses it, and nothing else. The forbidden text can be delivered all the same: just
if another text was submitted of which it is what cleaning leaves, and it is no reserved text. -/
theorem denied_iff (engine : Validation) {name x : String} (hname : name = "nequal" ∨ name = "nenum" ∧
      ∀ head tail, Text.cutOnce ':' x = some (head, tail) → namesModifiers .nenum head = false)
    (hx : PlainArgument x) (hplain : ∀ c ∈ x.toList, c ∉ Markup.special) (v : String) :
    ((∃ data, (engine.validateValue v (namedCell name x)).value = .ok (.valid data)) ↔ v ≠ x ∨ x = emptyMark) ∧
      ∀ data, (engine.validateValue v (namedCell name x)).value = .ok (.valid data) → ∃ out, data = .map out ∧
        (Keyed.get? out "value" = some (.text x) ↔ v ≠ x ∧ engine.settings.policy.plainText v = x ∧
          x ∉ [emptyMark, emptyPlaceholder, notNullMark]) := by
  obtain ⟨test, ht, hread⟩ := exists_denial hname hx
  refine ⟨accepts_iff_of_denies ht engine hread hx v, fun data h => ?_⟩
  exact delivers_iff_of_denies ht engine hread hx hplain h

theorem plainArgument_admin : PlainArgument "admin" := by
  constructor <;> decide

theorem not_special_admin : ∀ c ∈ "admin".toList, c ∉ Markup.special := by
  have hall : "admin".toList.all (fun c => !Markup.special.contains c) = true := by decide
  simpa using hall

theorem denied_iff_admin :
    PlainArgument "admin" ∧ (∀ c ∈ "admin".toList, c ∉ Markup.special) ∧
      (¬ ∃ data, (alone.validateValue "admin" (namedCell "nequal" "admin")).value = .ok (.valid data)) ∧
      ∃ data, (alone.validateValue "Ann" (namedCell "nequal" "admin")).value = .ok (.valid data) ∧
        ∃ out, data = .map out ∧ Keyed.get? out "value" ≠ some (.text "admin") := by
  obtain ⟨hrefused, -⟩ := denied_iff alone (.inl rfl) plainArgument_admin not_special_admin "admin"
  obtain ⟨haccepted, hdelivered⟩ := denied_iff alone (.inl rfl) plainArgument_admin not_special_admin "Ann"
  obtain ⟨data, hdata⟩ := haccepted.2 (.inl (by decide))
  obtain ⟨out, hout, hiff⟩ := hdelivered data hdata
  refine ⟨plainArgument_admin, not_special_admin, fun h => absurd (hrefused.1 h) (by decide), data, hdata, out, hout,
    fun h => ?_⟩
  have hplain := (hiff.1 h).2.1
  rw [Policy.plainText_eq_self (by decide) (by decide)] at hplain
  exact absurd hplain (by decide)

/-- Outer blanks and tags hide a forbidden text from the check, and cleaning brings it out again. -/
theorem denied_text_delivered :
    PlainArgument "admin" ∧ (∀ c ∈ "admin".toList, c ∉ Markup.special) ∧
      (alone.validateValue " admin " "nequal:admin").value = .ok (.valid (.map [("value", .text "admin")])) ∧
      (alone.validateValue "<b>admin</b>" "nenum:admin").value =
        .ok (.valid (.map [("value", .text "admin")])) := by
  refine ⟨plainArgument_admin, not_special_admin, ?_, ?_⟩ <;> decide +kernel

end Validation

end FieldRules
