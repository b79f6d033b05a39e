import FieldRules.Proofs.OneText
/-!
# What a valid verdict delivers

Four things about the tree of a valid verdict, for every tree, every object of rules and every engine. Texts
are safe to show under the policy of the call (`texts_safe`). A field that was demanded is there when all acts
are done, and is left out after that just if cleaning makes a blank text of it (`demanded_missing_iff`). A field
that is passed through is delivered as it was submitted, except that texts which read like the mark are emptied
(`ignored_get?`). A text is delivered as the empty text just where a text stood that cleaning turns into the
mark, and without `notNull` that text stood there before the acts (`empty_text_iff`).
-/

namespace FieldRules

namespace Validation

/-- The engine as it comes, alone in the world. -/
def alone : Validation := { collaborators := .mute }

theorem tokenize_required : tokenize "required" = [{ test := .required }] := by
  rw [tokenize_of_ascii (by decide) (by decide)]
  decide

theorem ofTokens_required : FieldRule.ofTokens (tokenize "required") =
    .ok { checks := [{ test := .required }], demandsPresence := true } := by
  rw [tokenize_required]
  rfl

theorem tokenize_ignore : tokenize "ignore" = [{ test := .ignore }] := by
  rw [tokenize_of_ascii (by decide) (by decide)]
  decide

theorem ofTokens_ignore : FieldRule.ofTokens (tokenize "ignore") = .ok { ignore := true } := by
  rw [tokenize_ignore]
  rfl

theorem tokenize_string : tokenize "string" = [{ test := .string }] := by
  rw [tokenize_of_ascii (by decide) (by decide)]
  decide

theorem ofTokens_string : FieldRule.ofTokens (tokenize "string") = .ok { checks := [{ test := .string }] } := by
  rw [tokenize_string]
  rfl

variable {engine : Validation} {tree data : Value} {rules : List (String × Json)}

/-- Outside the fields that are passed through, every text that is delivered is safe. -/
theorem texts_safe (h : (engine.validateTree tree (.object rules)).value = .ok (.valid data)) :
    ∃ policy, engine.policy (splitRules rules).1 = .ok policy ∧ ∀ path s, data.At path (.text s) →
      (∀ key, path.head? = some key → ¬ RuleHas rules key .ignore) → policy.Safe s := by
  obtain ⟨c⟩ := valid_iff.1 h
  refine ⟨c.policy, c.policy_eq, fun path s hs hpath => ?_⟩
  rw [c.data_eq_map] at hs
  cases path with
  | nil => cases hs
  | cons key path =>
    have hkey : key ∉ c.set.ignored := fun hm => hpath key rfl ((c.mem_ignored key).1 hm)
    obtain ⟨-, t, -, ht⟩ := (deliveredFields_text_at hkey).1 hs
    exact Policy.safe_of_deliverText? ht

theorem texts_safe_note :
    (alone.validateTree (.map [("note", .text " <b>Tom</b> & \x22Jerry\x22 ")])
      (.object [("note", .string "string")])).value =
        .ok (.valid (.map [("note", .text "Tom &amp; &quot;Jerry&quot;")])) ∧
      ∃ policy, alone.policy none = .ok policy ∧ policy.Safe "Tom &amp; &quot;Jerry&quot;" := by
  have h : (alone.validateTree (.map [("note", .text " <b>Tom</b> & \x22Jerry\x22 ")])
      (.object [("note", .string "string")])).value =
        .ok (.valid (.map [("note", .text "Tom &amp; &quot;Jerry&quot;")])) := by
    rw [value_validateTree_of_one rfl rfl ofTokens_string]
    decide +kernel
  obtain ⟨policy, hp, hsafe⟩ := texts_safe h
  exact ⟨h, policy, hp, hsafe ["note"] _ (.entry List.mem_cons_self (.root _)) (by decide +kernel)⟩

/-- A field that was demanded is there when all acts are done. It is missing from what is delivered just if it
is a text then of which cleaning leaves nothing but blanks. -/
theorem demanded_missing_iff (h : (engine.validateTree tree (.object rules)).value = .ok (.valid data)) :
    ∃ (c : Stages engine tree rules data) (out : List (String × Value)), data = .map out ∧
      ∀ field test, test.demandsPresence = true → RuleHas rules field test → ¬ RuleHas rules field .ignore →
        field ∈ Keyed.keys c.settled ∧
          (field ∉ Keyed.keys out ↔ ∀ v, (field, v) ∈ c.settled →
            ∃ s, v = .text s ∧ isBlankText (c.policy.cleanText s) = true) := by
  obtain ⟨c⟩ := valid_iff.1 h
  refine ⟨c, _, c.data_eq_map, fun field test ht hf hi => ⟨c.mem_keys_settled ht hf hi, ?_⟩⟩
  obtain ⟨tokens, htokens, -⟩ := hf
  rw [not_mem_keys_deliveredFields (mt (c.mem_ignored field).1 hi) (ne_policyKey_of_fieldTokens htokens)]
  simp only [Policy.deliverText?_eq_none]

theorem demanded_missing_iff_name :
    (alone.validateTree (.map [("name", .text "Ann")]) (.object [("name", .string "required")])).value =
        .ok (.valid (.map [("name", .text "Ann")])) ∧
      ∃ c : Stages alone (.map [("name", .text "Ann")]) [("name", .string "required")]
          (.map [("name", .text "Ann")]),
        "name" ∈ Keyed.keys c.settled := by
  have h : (alone.validateTree (.map [("name", .text "Ann")]) (.object [("name", .string "required")])).value =
      .ok (.valid (.map [("name", .text "Ann")])) := by
    rw [value_validateTree_of_one rfl rfl ofTokens_required]
    decide +kernel
  obtain ⟨c, _, -, hc⟩ := demanded_missing_iff h
  have hf : RuleHas [("name", .string "required")] "name" .required := by
    rw [ruleHas_of_one rfl, tokenize_required]
    decide
  have hi : ¬ RuleHas [("name", .string "required")] "name" .ignore := by
    rw [ruleHas_of_one rfl, tokenize_required]
    decide
  exact ⟨h, c, (hc "name" .required rfl hf hi).1⟩

/-- A required text of nothing but tags is accepted, and is missing from what is delivered. -/
theorem required_tags_missing :
    RuleHas [("a", .string "required")] "a" .required ∧ ¬ RuleHas [("a", .string "required")] "a" .ignore ∧
      (alone.validateTree (.map [("a", .text "<b></b>")]) (.object [("a", .string "required")])).value =
        .ok (.valid (.map [])) := by
  refine ⟨?_, ?_, ?_⟩
  · rw [ruleHas_of_one rfl, tokenize_required]
    decide
  · rw [ruleHas_of_one rfl, tokenize_required]
    decide
  · rw [value_validateTree_of_one rfl rfl ofTokens_required]
    decide +kernel

/-- A field that is passed through is delivered with the texts emptied that read like the mark; so it is
delivered as it was submitted just if it has none. -/
theorem ignored_get? {fields : List (String × Value)}
    (h : (engine.validateTree (.map fields) (.object rules)).value = .ok (.valid data)) {field : String}
    (hf : RuleHas rules field .ignore) {v : Value} (hv : Keyed.get? fields field = some v) :
    ∃ out, data = .map out ∧ Keyed.get? out field = some v.emptyMarked ∧
      (Keyed.get? out field = some v ↔ ∀ path, ¬ v.At path (.text notNullMark)) := by
  obtain ⟨c⟩ := valid_iff.1 h
  have hget : Keyed.get? (deliveredFields c.policy c.set.ignored c.settled) field = some v.emptyMarked := by
    obtain ⟨tokens, htokens, -⟩ := id hf
    rw [get?_deliveredFields ((c.mem_ignored field).2 hf) (ne_policyKey_of_fieldTokens htokens),
      c.get?_settled hf]
    exact congrArg (Option.map Value.emptyMarked) hv
  refine ⟨_, c.data_eq_map, hget, ?_⟩
  rw [hget, Option.some_inj]
  exact Value.emptyMarked_eq_self_iff

theorem ignored_get?_raw :
    RuleHas [("raw", .string "ignore")] "raw" .ignore ∧
      (alone.validateTree (.map [("raw", .text " <b> ")]) (.object [("raw", .string "ignore")])).value =
        .ok (.valid (.map [("raw", .text " <b> ")])) ∧
      ∃ out, Value.map [("raw", .text " <b> ")] = .map out ∧ Keyed.get? out "raw" = some (.text " <b> ") := by
  have h : (alone.validateTree (.map [("raw", .text " <b> ")]) (.object [("raw", .string "ignore")])).value =
      .ok (.valid (.map [("raw", .text " <b> ")])) := by
    rw [value_validateTree_of_one rfl rfl ofTokens_ignore]
    rfl
  have hf : RuleHas [("raw", .string "ignore")] "raw" .ignore := by
    rw [ruleHas_of_one rfl, tokenize_ignore]
    decide
  obtain ⟨out, hout, hget, -⟩ := ignored_get? h hf rfl
  exact ⟨hf, h, out, hout, hget⟩

/-- A field that is passed through loses a text that reads like the mark. -/
theorem ignored_mark_emptied :
    RuleHas [("raw", .string "ignore")] "raw" .ignore ∧
      (alone.validateTree (.map [("raw", .text notNullMark)]) (.object [("raw", .string "ignore")])).value =
        .ok (.valid (.map [("raw", .text "")])) := by
  refine ⟨?_, ?_⟩
  · rw [ruleHas_of_one rfl, tokenize_ignore]
    decide
  · rw [value_validateTree_of_one rfl rfl ofTokens_ignore]
    rfl

/-- Outside the fields that are passed through, the empty text is delivered just where a text stood at the end
that cleaning turns into the mark. In a field whose rule does not say `notNull`, it stood there before the
acts. -/
theorem empty_text_iff (h : (engine.validateTree tree (.object rules)).value = .ok (.valid data)) :
    ∃ c : Stages engine tree rules data, ∀ key path, ¬ RuleHas rules key .ignore →
      (data.At (key :: path) (.text "") ↔ key ≠ policyKey ∧
        ∃ s, (Value.map c.settled).At (key :: path) (.text s) ∧ c.policy.cleanText s = notNullMark) ∧
      (¬ RuleHas rules key .notNull → data.At (key :: path) (.text "") →
        ∃ s, (Value.map c.walked).At (key :: path) (.text s) ∧ c.policy.cleanText s = notNullMark) := by
  obtain ⟨c⟩ := valid_iff.1 h
  refine ⟨c, fun key path hi => ?_⟩
  have hat : data.At (key :: path) (.text "") ↔ key ≠ policyKey ∧
      ∃ s, (Value.map c.settled).At (key :: path) (.text s) ∧ c.policy.cleanText s = notNullMark := by
    simp only [c.data_eq_map, deliveredFields_text_at (mt (c.mem_ignored key).1 hi),
      Policy.deliverText?_eq_empty]
  refine ⟨hat, fun hn hdata => ?_⟩
  obtain ⟨-, s, hs, hmark⟩ := hat.1 hdata
  exact ⟨s, c.text_at_walked hn (Policy.underscore_mem_of_cleanText hmark) hs, hmark⟩

theorem empty_text_iff_nickname :
    (alone.validateTree (.map [("nickname", .text " ")]) (.object [("nickname", .string "notnull")])).value =
        .ok (.valid (.map [("nickname", .text "")])) ∧
      ∃ c : Stages alone (.map [("nickname", .text " ")]) [("nickname", .string "notnull")]
          (.map [("nickname", .text "")]),
        ∃ s, (Value.map c.settled).At ["nickname"] (.text s) ∧ c.policy.cleanText s = notNullMark := by
  have hread : tokenize "notnull" = [{ test := .notNull }] := by
    rw [tokenize_of_ascii (by decide) (by decide)]
    decide
  have h : (alone.validateTree (.map [("nickname", .text " ")])
      (.object [("nickname", .string "notnull")])).value = .ok (.valid (.map [("nickname", .text "")])) := by
    have hrule : FieldRule.ofTokens (tokenize "notnull") = .ok { acts := [.notNull], demandsPresence := true } := by
      rw [hread]
      rfl
    rw [value_validateTree_of_one rfl rfl hrule]
    rfl
  obtain ⟨c, hc⟩ := empty_text_iff h
  have hi : ¬ RuleHas [("nickname", .string "notnull")] "nickname" .ignore := by
    rw [ruleHas_of_one rfl, hread]
    decide
  have hiff := (hc "nickname" [] hi).1
  exact ⟨h, c, (hiff.1 (.entry List.mem_cons_self (.root _))).2⟩

/-- A submitted text that reads like the mark is delivered as the empty text, without any `notNull`. -/
theorem submitted_mark_emptied :
    ¬ RuleHas [("name", .string "string")] "name" .notNull ∧
      ¬ RuleHas [("name", .string "string")] "name" .ignore ∧
      (alone.validateTree (.map [("name", .text notNullMark)]) (.object [("name", .string "string")])).value =
        .ok (.valid (.map [("name", .text "")])) := by
  refine ⟨?_, ?_, ?_⟩
  · rw [ruleHas_of_one rfl, tokenize_string]
    decide
  · rw [ruleHas_of_one rfl, tokenize_string]
    decide
  · rw [value_validateTree_of_one rfl rfl ofTokens_string]
    rfl

end Validation

end FieldRules
