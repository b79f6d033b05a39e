import FieldRules.Proofs.Delivery
/-!
# Rules that make no sense

Some rules are refused whatever the data are: a policy that cannot be read, a test that does not exist, a conversion
without a target. `Token.flaw?` is such a fault of one token, and `Flawed` says that the rule of a field has one. A call
looks for them before it looks at its tree. It is refused for the policy, or else for the first flawed token of the
first field that has one, alike for every tree and without a call to anyone but the reporter
(`Validation.flawed_refused`).
-/

namespace FieldRules

/-! ## Folds that fail -/

section
variable {α β ε : Type} {step : β → α → Except ε β} {b : β} {as : List α} {e : ε}

/-- Where a step fails for its element alone, a fold fails for the first element whose step does. -/
theorem foldlM_eq_error_iff {flaw? : α → Option ε} (h : ∀ b a e, step b a = .error e ↔ flaw? a = some e) :
    as.foldlM step b = .error e ↔ as.findSome? flaw? = some e := by
  induction as generalizing b with
  | nil => simp [pure, Except.pure]
  | cons a as ih =>
    rw [List.foldlM_cons, List.findSome?_cons]
    cases ha : step b a with
    | error first =>
      rw [(h b a first).1 ha]
      simp [bind, Except.bind]
    | ok next =>
      have hnone : flaw? a = none := by
        refine Option.eq_none_iff_forall_ne_some.2 fun first hfirst => ?_
        rw [(h b a first).2 hfirst] at ha
        cases ha
      simp only [hnone, bind, Except.bind, ih]

/-- A fold that fails does so in a step. -/
theorem exists_of_foldlM_eq_error (h : as.foldlM step b = .error e) : ∃ b, ∃ a ∈ as, step b a = .error e := by
  induction as generalizing b with
  | nil => cases h
  | cons a as ih =>
    rw [List.foldlM_cons] at h
    cases ha : step b a with
    | error first =>
      simp only [ha, bind, Except.bind, Except.error.injEq] at h
      exact ⟨b, a, List.mem_cons_self, h ▸ ha⟩
    | ok next =>
      simp only [ha, bind, Except.bind] at h
      obtain ⟨b, a, hmem, hstep⟩ := ih h
      exact ⟨b, a, List.mem_cons_of_mem _ hmem, hstep⟩

end

/-! ## Tokens -/

/-- What is wrong with a token whatever it is to judge: its test does not exist, or it is a conversion without a
target. -/
def Token.flaw? (t : Token) : Option Fault :=
  match t.test with
  | .unknown name => some (.unknownTest name)
  | .format =>
    match Target.ofToken t with
    | .error fault => some fault
    | .ok _ => none
  | _ => none

theorem Target.kind_of_precision {t : Token} {fault : Fault} (h : precision t = .error fault) :
    fault.kind = .grammar := by
  unfold precision at h
  split at h
  · cases h
  · rename_i raw _ _
    unfold parseCount at h
    split at h
    · simp only [bind, Except.bind] at h
      split at h
      · cases h
      · cases h
        rfl
    · cases h
      rfl

theorem Target.kind_of_ofToken {t : Token} {fault : Fault} (h : ofToken t = .error fault) : fault.kind = .grammar := by
  unfold ofToken at h
  split at h
  case h_5 =>
    cases hp : precision t with
    | error first =>
      simp only [hp, Except.map, Except.error.injEq] at h
      exact h ▸ kind_of_precision hp
    | ok n => simp [hp, Except.map] at h
  all_goals
    cases h
    try rfl

namespace Token

theorem flaw?_eq_some_iff {t : Token} {fault : Fault} : t.flaw? = some fault ↔
    (∃ name, t.test = .unknown name ∧ fault = .unknownTest name) ∨
      t.test = .format ∧ Target.ofToken t = .error fault := by
  unfold flaw?
  split
  · rename_i name ht
    simp [ht, eq_comm]
  · rename_i ht
    cases ho : Target.ofToken t <;> simp [ht]
  · rename_i hunknown hformat
    constructor
    · intro h
      cases h
    · rintro (⟨name, ht, -⟩ | ⟨ht, -⟩)
      · exact (hunknown name ht).elim
      · exact (hformat ht).elim

theorem kind_of_flaw? {t : Token} {fault : Fault} (h : t.flaw? = some fault) : fault.kind = .grammar := by
  rcases flaw?_eq_some_iff.1 h with ⟨name, -, rfl⟩ | ⟨-, ho⟩
  · rfl
  · exact Target.kind_of_ofToken ho

end Token

namespace FieldRule

/-- A token is refused just if it has a flaw. -/
theorem add_eq_error_iff (rule : FieldRule) (t : Token) (fault : Fault) :
    rule.add t = .error fault ↔ t.flaw? = some fault := by
  unfold add Token.flaw?
  cases ht : t.test
  case format => cases ho : Target.ofToken t <;> simp [Test.isDeferred, Deferred.ofToken?, ht, ho, bind, Except.bind,
    Except.map, pure, Except.pure]
  all_goals simp [Test.isDeferred, Deferred.ofToken?, ht, bind, Except.bind, pure, Except.pure]

/-- The tokens of a field are refused just if one has a flaw, and for the first that has. -/
theorem ofTokens_eq_error_iff {tokens : List Token} {fault : Fault} :
    ofTokens tokens = .error fault ↔ tokens.findSome? Token.flaw? = some fault :=
  foldlM_eq_error_iff add_eq_error_iff

theorem findSome?_flaw?_of_ofTokens {tokens : List Token} {rule : FieldRule} (h : ofTokens tokens = .ok rule) :
    tokens.findSome? Token.flaw? = none := by
  refine Option.eq_none_iff_forall_ne_some.2 fun fault hfault => ?_
  rw [ofTokens_eq_error_iff.2 hfault] at h
  cases h

end FieldRule

/-! ## Rules -/

/-- The failure of a rule with a flawed token. -/
def RuleSet.flaw? (rule : String × String) : Option Failure :=
  ((tokenize rule.2).findSome? Token.flaw?).map fun fault => { fault, field := some rule.1 }

/-- The rules of fields are refused just if one has a flawed token, and for the first that has. -/
theorem RuleSet.ofTexts_eq_error_iff {texts : List (String × String)} {f : Failure} :
    ofTexts texts = .error f ↔ texts.findSome? flaw? = some f := by
  refine foldlM_eq_error_iff fun set rule f => ?_
  unfold addText flaw?
  cases hmade : FieldRule.ofTokens (tokenize rule.2) with
  | error fault => simp [FieldRule.ofTokens_eq_error_iff.1 hmade]
  | ok made => simp [FieldRule.findSome?_flaw?_of_ofTokens hmade]

/-- Among the rules of a call, the rule of a field with a flawed token. -/
def Flawed (rule : String × Json) : Prop :=
  rule.1 ∉ [policyKey, quotedPolicyKey] ∧ ∃ t ∈ tokenize (ruleText rule.2), t.flaw? ≠ none

/-- The failure of a rule of a call, if it is a flawed rule of a field. -/
def ruleFlaw? (rule : String × Json) : Option Failure :=
  if rule.1 == policyKey || rule.1 == quotedPolicyKey then none else RuleSet.flaw? (rule.1, ruleText rule.2)

theorem ruleFlaw?_eq_some_iff {rule : String × Json} {f : Failure} : ruleFlaw? rule = some f ↔
    rule.1 ∉ [policyKey, quotedPolicyKey] ∧ ∃ fault, (tokenize (ruleText rule.2)).findSome? Token.flaw? = some fault ∧
      f = { fault, field := some rule.1 } := by
  unfold ruleFlaw? RuleSet.flaw?
  split
  · rename_i hkey
    have hkey : rule.1 ∈ [policyKey, quotedPolicyKey] := by simpa using hkey
    simp only [hkey, not_true, false_and, reduceCtorEq]
  · rename_i hkey
    have hkey : rule.1 ∉ [policyKey, quotedPolicyKey] := by simpa using hkey
    simp only [hkey, not_false_eq_true, true_and, Option.map_eq_some_iff, @eq_comm _ _ f]

theorem flawed_iff {rule : String × Json} : Flawed rule ↔ ∃ f, ruleFlaw? rule = some f := by
  have htokens : (∃ t ∈ tokenize (ruleText rule.2), t.flaw? ≠ none) ↔
      ∃ fault, (tokenize (ruleText rule.2)).findSome? Token.flaw? = some fault := by
    rw [← Option.isSome_iff_exists, List.findSome?_isSome_iff]
    simp [Option.isSome_iff_ne_none]
  rw [Flawed, htokens]
  constructor
  · rintro ⟨hkey, fault, hfault⟩
    exact ⟨_, ruleFlaw?_eq_some_iff.2 ⟨hkey, fault, hfault, rfl⟩⟩
  · rintro ⟨f, hf⟩
    obtain ⟨hkey, fault, hfault, -⟩ := ruleFlaw?_eq_some_iff.1 hf
    exact ⟨hkey, fault, hfault⟩

/-! ## Calls -/

theorem Policy.kind_of_set {policy : Policy} {cell : String} {fault : Fault} (h : policy.set cell = .error fault) :
    fault.kind = .grammar := by
  unfold set at h
  simp only at h
  repeat' split at h
  all_goals
    cases h
    try rfl

theorem Policy.kind_of_parse {text : String} {base : Policy} {fault : Fault} (h : parse text base = .error fault) :
    fault.kind = .grammar := by
  obtain ⟨policy, cell, -, hset⟩ := exists_of_foldlM_eq_error h
  exact kind_of_set hset

namespace Validation

/-- The policy among the rules of a call cannot be read. -/
def PolicyFlaw (engine : Validation) (rules : List (String × Json)) (fault : Fault) : Prop :=
  ∃ text, (splitRules rules).1 = some text ∧ Policy.parse text engine.settings.policy = .error fault

variable {engine : Validation} {rules : List (String × Json)}

theorem policy_eq_error_iff {f : Failure} : engine.policy (splitRules rules).1 = .error f ↔
    ∃ fault, engine.PolicyFlaw rules fault ∧ f = { fault, field := some policyKey } := by
  unfold policy PolicyFlaw
  cases hsplit : (splitRules rules).1 with
  | none => simp
  | some text =>
    cases hparse : Policy.parse text engine.settings.policy <;> simp [hparse, Except.mapError, @eq_comm _ _ f]

theorem fields_eq_error_iff {f : Failure} :
    RuleSet.ofTexts (splitRules rules).2 = .error f ↔ rules.findSome? ruleFlaw? = some f := by
  rw [RuleSet.ofTexts_eq_error_iff, splitRules_fields]
  refine iff_of_eq (congrArg (· = some f) ?_)
  induction rules with
  | nil => rfl
  | cons rule rules ih =>
    rw [List.findSome?_cons, List.filter_cons, ruleFlaw?, ← ih]
    cases rule.1 == policyKey || rule.1 == quotedPolicyKey <;> rfl

theorem policy_ok_of_no_flaw (h : ¬ ∃ fault, engine.PolicyFlaw rules fault) :
    ∃ policy, engine.policy (splitRules rules).1 = .ok policy := by
  cases hp : engine.policy (splitRules rules).1 with
  | ok policy => exact ⟨policy, rfl⟩
  | error f =>
    obtain ⟨fault, hfault, -⟩ := policy_eq_error_iff.1 hp
    exact absurd ⟨fault, hfault⟩ h

/-- The rules of a call cannot be sorted out: its policy cannot be read, or it can and the rule of a field is refused. -/
def Refuses (engine : Validation) (rules : List (String × Json)) (f : Failure) : Prop :=
  engine.policy (splitRules rules).1 = .error f ∨
    (∃ policy, engine.policy (splitRules rules).1 = .ok policy) ∧ RuleSet.ofTexts (splitRules rules).2 = .error f

/-- A call whose rules make no sense is refused before it looks at its tree. -/
theorem run_of_refuses {f : Failure} (h : engine.Refuses rules f) (tree : Value) :
    engine.run tree rules = .silent (.error f) := by
  rcases h with hp | ⟨⟨policy, hp⟩, hs⟩
  · simp only [run, hp, bind, Except.bind]
    rfl
  · simp only [run, hp, hs, bind, Except.bind]
    rfl

/-- Of a failure no one is told but the reporter. -/
theorem calls_conclude {f : Failure} {c : Call} (h : c ∈ (engine.conclude f).calls) : c = .report f.detail := by
  cases hd : engine.detailed
  · simp [conclude, hd] at h
  · simpa [conclude, hd, Traced.call] using h

/-- What comes of such a call is said by its failure alone, whatever the tree is and whoever the collaborators are. -/
theorem validateTree_of_refuses {f : Failure} (h : engine.Refuses rules f) (world : Collaborators) (tree : Value) :
    let call := { engine with collaborators := world }.validateTree tree (.object rules)
    call = engine.conclude f ∧ ∀ c ∈ call.calls, c = .report f.detail := by
  have hworld : { engine with collaborators := world }.Refuses rules f := h
  have hrun := run_of_refuses hworld tree
  have hcall : { engine with collaborators := world }.validateTree tree (.object rules) = engine.conclude f := by
    simp only [validateTree, hrun]
    rfl
  exact ⟨hcall, fun c hc => calls_conclude (hcall ▸ hc)⟩

/-- A call is refused if its policy cannot be read or the rule of a field is flawed. The failure is about the rules,
and it is the same whatever the tree is and whoever the collaborators are, of whom none is called but the reporter.
A policy that cannot be read comes before all fields; otherwise the failure is that of the first field with a flawed
rule, for the first flawed token of that rule. -/
theorem flawed_refused (engine : Validation) {rules : List (String × Json)}
    (h : (∃ fault, engine.PolicyFlaw rules fault) ∨ ∃ rule ∈ rules, Flawed rule) :
    ∃ f : Failure, f.kind = .grammar ∧
      (∀ (world : Collaborators) (tree : Value),
        let call := { engine with collaborators := world }.validateTree tree (.object rules)
        call = engine.conclude f ∧ ∀ c ∈ call.calls, c = .report f.detail) ∧
      (∀ fault, engine.PolicyFlaw rules fault → f = { fault, field := some policyKey }) ∧
      ((¬ ∃ fault, engine.PolicyFlaw rules fault) → ∃ before field rule after,
        rules = before ++ (field, rule) :: after ∧ (∀ r ∈ before, ¬ Flawed r) ∧ Flawed (field, rule) ∧
          f.field = some field ∧ (tokenize (ruleText rule)).findSome? Token.flaw? = some f.fault) := by
  by_cases hpolicy : ∃ fault, engine.PolicyFlaw rules fault
  · obtain ⟨fault, text, htext, hparse⟩ := hpolicy
    have hrefuses : engine.Refuses rules { fault, field := some policyKey } :=
      .inl (policy_eq_error_iff.2 ⟨fault, ⟨text, htext, hparse⟩, rfl⟩)
    refine ⟨_, Policy.kind_of_parse hparse, validateTree_of_refuses hrefuses, ?_, ?_⟩
    · rintro other ⟨text', htext', hparse'⟩
      obtain rfl : text = text' := Option.some_inj.1 (htext.symm.trans htext')
      rw [hparse] at hparse'
      cases hparse'
      rfl
    · exact fun hno => absurd ⟨fault, text, htext, hparse⟩ hno
  · obtain ⟨rule, hmem, hflawed⟩ := h.resolve_left hpolicy
    obtain ⟨f, hf⟩ : ∃ f, rules.findSome? ruleFlaw? = some f := by
      rw [← Option.isSome_iff_exists, List.findSome?_isSome_iff]
      exact ⟨rule, hmem, Option.isSome_iff_exists.2 (flawed_iff.1 hflawed)⟩
    have hrefuses : engine.Refuses rules f := .inr ⟨policy_ok_of_no_flaw hpolicy, fields_eq_error_iff.2 hf⟩
    obtain ⟨before, ⟨field, rule⟩, after, hrules, hrule, hbefore⟩ := List.findSome?_eq_some_iff.1 hf
    obtain ⟨-, fault, hfault, rfl⟩ := ruleFlaw?_eq_some_iff.1 hrule
    obtain ⟨t, -, ht⟩ := List.exists_of_findSome?_eq_some hfault
    refine ⟨_, Token.kind_of_flaw? ht, validateTree_of_refuses hrefuses,
      fun fault hfault => absurd ⟨fault, hfault⟩ hpolicy, fun _ => ?_⟩
    refine ⟨before, field, rule, after, hrules, fun r hr hflawed => ?_, flawed_iff.2 ⟨_, hrule⟩, rfl, hfault⟩
    obtain ⟨g, hg⟩ := flawed_iff.1 hflawed
    rw [hbefore r hr] at hg
    cases hg

theorem flawed_refused_age :
    let rules := [("name", Json.string "alpha:only;required"), ("age", .string "min:18;format;colour"),
      ("note", .string "shade")]
    Flawed ("age", .string "min:18;format;colour") ∧ ∀ (world : Collaborators) (tree : Value),
      { alone with collaborators := world }.validateTree tree (.object rules) =
        .silent (.ok (.invalid { fault := .formatWithoutTarget, field := some "age" })) := by
  intro rules
  have hflawed : Flawed ("age", .string "min:18;format;colour") := by
    refine flawed_iff.2 ⟨{ fault := .formatWithoutTarget, field := some "age" }, ?_⟩
    decide +kernel
  have hrule : ∃ rule ∈ rules, Flawed rule := ⟨_, .tail _ (.head _), hflawed⟩
  obtain ⟨f, -, hcall, -⟩ := flawed_refused alone (.inr hrule)
  -- Any one tree tells which failure it is.
  have hf : (alone.conclude f).value = .ok (.invalid { fault := .formatWithoutTarget, field := some "age" }) := by
    rw [← (hcall .mute .null).1]
    decide +kernel
  refine ⟨hflawed, fun world tree => (hcall world tree).1.trans ?_⟩
  cases hf
  rfl

end Validation

end FieldRules
