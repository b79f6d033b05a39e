import FieldRules.Proofs.Asking
import FieldRules.Proofs.Flaws
/-!
# What the options have no say in

The policy of a call and the options of its engine say how a result is told: which texts are cleaned how, whether a
failure is reported, whether it is raised. What the checks and the acts come to is found without them
(`Validation.judged`, `Validation.run_of_policy`). So two calls that differ in nothing else end alike, with the same
failure if they fail, and ask the same of everyone but the reporter, who hears of a failure just if the engine says so
(`Validation.options_verdict`).
-/

namespace FieldRules

/-- The call reports a failure. -/
def Call.isReport : Call → Bool
  | .report _ => true
  | _ => false

/-- No test reports. -/
theorem Test.MayAsk.isReport_eq {test : Test} {c : Call} (h : test.MayAsk c) : c.isReport = false := by
  cases h <;> rfl

namespace Validation

/-! ## What is found without the policy -/

/-- The deferred acts after a walk, without the cleaning. -/
def performed (walked : Walked (List (String × Value))) : Except Failure Value := do
  let notes ← walked.outcome
  match Plan.performTree (Walk.plan notes) (.map walked.value) with
  | (_, some f) => throw f
  | (tree, none) => return tree

theorem finish_eq (policy : Policy) (set : RuleSet) (walked : Walked (List (String × Value))) :
    finish policy set walked = (performed walked).map (deliver policy set) := by
  unfold finish performed
  cases walked.outcome with
  | error f => rfl
  | ok notes =>
    simp only [bind, Except.bind]
    rcases Plan.performTree (Walk.plan notes) (.map walked.value) with ⟨tree, _ | f⟩ <;> rfl

/-- The rules of a call and its tree when all acts are done, or the failure that ends it before that. -/
def judged (scope : Scope) (texts : List (String × String)) (tree : Value) :
    Traced (Except Failure (RuleSet × Value)) :=
  match RuleSet.ofTexts texts with
  | .error f => .silent (.error f)
  | .ok set => do
    let walked ← Walk.fields scope set (set.prefill (fieldsOf tree))
    return (performed walked).map fun settled => (set, settled)

theorem not_report_judged {scope : Scope} {texts : List (String × String)} {tree : Value} :
    ∀ c ∈ (judged scope texts tree).calls, c.isReport = false := by
  unfold judged
  split
  · exact List.forall_mem_nil _
  · rename_i set hset
    refine ((Walk.asks_fields (RuleSet.distinct_ofTexts hset)).mono fun c hc => ?_).append_silent
    obtain ⟨-, -, -, -, e, -, hc⟩ := hc
    exact (Check.asks_evaluate e.scope e.token e.subject c hc).isReport_eq

section
variable {engine : Validation} {rules : List (String × Json)}

/-- A call whose policy can be read delivers what is found without it. -/
theorem run_of_policy {policy : Policy} (h : engine.policy (splitRules rules).1 = .ok policy) (tree : Value) :
    engine.run tree rules = ⟨(judged engine.scope (splitRules rules).2 tree).calls,
      (judged engine.scope (splitRules rules).2 tree).value.map fun r => deliver policy r.1 r.2⟩ := by
  unfold run judged
  cases hs : RuleSet.ofTexts (splitRules rules).2 with
  | error f =>
    simp only [h, hs, bind, Except.bind]
    rfl
  | ok set =>
    simp only [h, hs, bind, Except.bind, pure, Except.pure, finish_eq, Traced.silent, List.append_nil]
    rcases performed (Walk.fields engine.scope set (set.prefill (fieldsOf tree))).value with f | settled <;> rfl

/-- A call whose policy and rules can be read asks what its walk asks, and delivers what is left after the acts. -/
theorem run_eq {policy : Policy} {set : RuleSet} (hpolicy : engine.policy (splitRules rules).1 = .ok policy)
    (hset : RuleSet.ofTexts (splitRules rules).2 = .ok set) (tree : Value) :
    let walk := Walk.fields engine.scope set (set.prefill (fieldsOf tree))
    engine.run tree rules = ⟨walk.calls, (performed walk.value).map (deliver policy set)⟩ := by
  intro walk
  rw [run_of_policy hpolicy, judged, hset]
  have hvalue : ∀ r : Except Failure Value, (r.map fun settled => (set, settled)).map (fun r => deliver policy r.1 r.2) =
      r.map (deliver policy set) := by
    rintro (f | settled) <;> rfl
  simp [walk, hvalue]

end

/-! ## Whom a call asks -/

/-- By these rules a call on the tree puts the value of the field to the checks of the rule. -/
def Due (tree : Value) (rules : List (String × Json)) (name : String) (rule : FieldRule) (v : Value) : Prop :=
  ∃ set, RuleSet.ofTexts (splitRules rules).2 = .ok set ∧ Walk.Visits set (set.prefill (fieldsOf tree)) name rule v

/-- A call asks no one but through the checks that its fields are due, and the reporter. -/
theorem exists_due_of_mem_calls {engine : Validation} {tree : Value} {rules : List (String × Json)} {c : Call}
    (h : c ∈ (engine.validateTree tree (.object rules)).calls) (hreport : c.isReport = false) :
    ∃ name rule v, Due tree rules name rule v ∧ ∃ e ∈ rule.evaluations engine.scope [name] v, c ∈ e.run.calls := by
  have hrun : c ∈ (engine.run tree rules).calls := by
    rw [validateTree, Traced.calls_bind] at h
    refine (List.mem_append.1 h).resolve_right fun hconclude => ?_
    split at hconclude
    · cases hconclude
    · rw [calls_conclude hconclude] at hreport
      cases hreport
  cases hpolicy : engine.policy (splitRules rules).1 with
  | error f =>
    rw [run_of_refuses (.inl hpolicy)] at hrun
    cases hrun
  | ok policy =>
    cases hset : RuleSet.ofTexts (splitRules rules).2 with
    | error f =>
      rw [run_of_refuses (.inr ⟨⟨policy, hpolicy⟩, hset⟩)] at hrun
      cases hrun
    | ok set =>
      rw [run_eq hpolicy hset] at hrun
      obtain ⟨name, rule, v, hvisits, hasked⟩ := Walk.asks_fields (RuleSet.distinct_ofTexts hset) c hrun
      exact ⟨name, rule, v, ⟨set, hset, hvisits⟩, hasked⟩

/-! ## How a result is told -/

/-- A call that has asked this of the world fails by a failure: the failure is reported just if the engine tells
failures in detail, and raised just if the engine raises them. -/
structure Fails (engine : Validation) (asked : List Call) (f : Failure) (call : Traced (Except Failure Verdict)) :
    Prop where
  calls_eq : call.calls = asked ++ if engine.detailed then [.report f] else []
  value_eq : call.value = if engine.raising then .error f else .ok (.invalid f)

/-- The failure as the engine tells it. -/
def told (engine : Validation) (f : Failure) : Failure := if engine.detailed then f.detail else f

theorem fails_conclude (engine : Validation) (asked : List Call) (f : Failure) :
    engine.Fails asked (engine.told f) ⟨asked ++ (engine.conclude f).calls, (engine.conclude f).value⟩ := by
  cases hd : engine.detailed <;> cases hr : engine.raising <;>
    constructor <;> simp [conclude, told, hd, hr, Traced.call]

section
variable {engine : Validation} {tree : Value} {rules : List (String × Json)}

theorem validateTree_of_run {asked : List Call} {data : Value} (h : engine.run tree rules = ⟨asked, .ok data⟩) :
    engine.validateTree tree (.object rules) = ⟨asked, .ok (.valid data)⟩ := by
  simp [validateTree, h, bind, pure, Traced.silent]

theorem fails_of_run {asked : List Call} {f : Failure} (h : engine.run tree rules = ⟨asked, .error f⟩) :
    engine.Fails asked (engine.told f) (engine.validateTree tree (.object rules)) := by
  simpa [validateTree, h, bind] using engine.fails_conclude asked f

end

/-! ## Calls that differ in their options -/

/-- The failures tell the same, whether in detail or not. -/
theorem told_same (engine engine' : Validation) (f : Failure) :
    (engine'.told f).fault = (engine.told f).fault ∧ (engine'.told f).field = (engine.told f).field := by
  unfold told
  cases engine.detailed <;> cases engine'.detailed <;> exact ⟨rfl, rfl⟩

section
variable {engine engine' : Validation} {rules rules' : List (String × Json)}

/-- Calls with the same rules of fields find the same, if they ask the same world. -/
theorem judged_congr (hworld : engine'.collaborators = engine.collaborators)
    (hregions : engine'.settings.telRegions = engine.settings.telRegions)
    (hrules : withoutPolicy rules' = withoutPolicy rules) (tree : Value) :
    judged engine'.scope (splitRules rules').2 tree = judged engine.scope (splitRules rules).2 tree := by
  have hscope : engine'.scope = engine.scope := by
    rw [scope, scope, hworld, hregions]
  have htexts : (splitRules rules').2 = (splitRules rules).2 := by
    rw [splitRules_fields, splitRules_fields]
    exact congrArg (List.map fun rule => (rule.1, ruleText rule.2)) hrules
  rw [hscope, htexts]

/-- Two calls on the same tree with the same world, the same preferred regions and the same rules of fields, and with
policies that can be read, end alike, whatever else their engines and their policies say. Both deliver something, or
both fail, with failures of the same id, code, kind, message and field. They ask the same of everyone but the reporter,
in the same order. Of a failure the reporter hears once if the engine tells failures in detail and never otherwise; and
it is raised just if the engine raises failures. -/
theorem options_verdict (hworld : engine'.collaborators = engine.collaborators)
    (hregions : engine'.settings.telRegions = engine.settings.telRegions)
    (hrules : withoutPolicy rules' = withoutPolicy rules)
    (hpolicy : ∃ policy, engine.policy (splitRules rules).1 = .ok policy)
    (hpolicy' : ∃ policy, engine'.policy (splitRules rules').1 = .ok policy) (tree : Value) :
    let call := engine.validateTree tree (.object rules)
    let call' := engine'.validateTree tree (.object rules')
    ∃ asked : List Call, (∀ c ∈ asked, c.isReport = false) ∧
      ((∃ data data', call = ⟨asked, .ok (.valid data)⟩ ∧ call' = ⟨asked, .ok (.valid data')⟩) ∨
        ∃ f f' : Failure, engine.Fails asked f call ∧ engine'.Fails asked f' call' ∧
          f'.id = f.id ∧ f'.code = f.code ∧ f'.kind = f.kind ∧ f'.message = f.message ∧ f'.field = f.field) := by
  intro call call'
  obtain ⟨policy, hpolicy⟩ := hpolicy
  obtain ⟨policy', hpolicy'⟩ := hpolicy'
  have hrun := run_of_policy hpolicy tree
  have hrun' := run_of_policy hpolicy' tree
  rw [judged_congr hworld hregions hrules] at hrun'
  refine ⟨(judged engine.scope (splitRules rules).2 tree).calls, not_report_judged, ?_⟩
  cases hfound : (judged engine.scope (splitRules rules).2 tree).value with
  | ok found =>
    rw [hfound] at hrun hrun'
    exact .inl ⟨_, _, validateTree_of_run hrun, validateTree_of_run hrun'⟩
  | error f =>
    rw [hfound] at hrun hrun'
    obtain ⟨hfault, hfield⟩ := told_same engine engine' f
    refine .inr ⟨_, _, fails_of_run hrun, fails_of_run hrun', ?_⟩
    simp only [Failure.id, Failure.code, Failure.kind, Failure.message, hfault, hfield, and_self]

theorem options_verdict_mail :
    let world : Collaborators := { Collaborators.mute with hasMx := fun _ => some false }
    let quiet : Validation := { collaborators := world }
    let loud : Validation := { detailed := true, raising := true, settings := { html := false }, collaborators := world }
    let rules := [("mail", Json.string "email:domain")]
    let rules' := [("mail", Json.string "email:domain"), (policyKey, .string "strip:no")]
    let tree := Value.map [("mail", .text "ann@example.org")]
    withoutPolicy rules' = withoutPolicy rules ∧
      ∃ f f' : Failure, quiet.Fails [.mx "example.org"] f (quiet.validateTree tree (.object rules)) ∧
        loud.Fails [.mx "example.org"] f' (loud.validateTree tree (.object rules')) ∧ f'.message = f.message := by
  intro world quiet loud rules rules' tree
  have hrules : withoutPolicy rules' = withoutPolicy rules := rfl
  have hpolicy' : loud.policy (splitRules rules').1 = .ok ⟨false, false⟩ := by decide
  have hread : FieldRule.ofTokens (tokenize "email:domain") =
      .ok { checks := [{ test := .email, modifiers := [.domain] }] } := by
    rw [tokenize_of_ascii (by decide) (by decide)]
    decide
  have hcall : quiet.validateTree tree (.object rules) = ⟨[.mx "example.org"],
      .ok (.invalid { fault := .domainRefusesMail "example.org", field := some "mail" })⟩ := by
    have hpolicy : quiet.policy (splitRules rules).1 = .ok {} := rfl
    rw [validateTree, run_of_policy hpolicy, judged, ofTexts_of_one rfl hread]
    rfl
  obtain ⟨asked, -, ⟨data, -, hvalid, -⟩ | ⟨f, f', hf, hf', -, -, -, hmessage, -⟩⟩ :=
    @options_verdict quiet loud rules rules' rfl rfl hrules ⟨_, rfl⟩ ⟨_, hpolicy'⟩ tree
  · rw [hcall] at hvalid
    cases hvalid
  · obtain rfl : asked = [.mx "example.org"] := by
      have hcalls := hf.calls_eq
      rw [hcall] at hcalls
      exact ((List.append_nil asked).symm.trans hcalls.symm)
    exact ⟨hrules, f, f', hf, hf', hmessage⟩

end

end Validation

end FieldRules
