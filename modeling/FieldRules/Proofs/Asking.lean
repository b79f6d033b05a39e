import FieldRules.Proofs.Independence
/-!
# Whom a walk asks

Only four tests ask the world outside, each of them only what it is about: `Test.MayAsk` says which calls a test may make.
A check asks no more than its test may (`Check.asks_evaluate`), and a walk asks only through the checks that its fields
are due (`Walk.asks_fields`). None of them reports anything: what is reported, a call reports when its run is over.
-/

namespace FieldRules

/-- Every call on the way to a value is one of these. -/
def Traced.Asks {α : Type} (P : Call → Prop) (t : Traced α) : Prop := ∀ c ∈ t.calls, P c

namespace Traced

variable {α β : Type} {P Q : Call → Prop}

theorem asks_silent (a : α) : (silent a).Asks P := List.forall_mem_nil _

theorem asks_call {c : Call} (h : P c) (answer : α) : (call c answer).Asks P := List.forall_mem_singleton.2 h

theorem Asks.mono {t : Traced α} (h : t.Asks P) (hPQ : ∀ c, P c → Q c) : t.Asks Q := fun c hc => hPQ c (h c hc)

theorem Asks.bind {t : Traced α} {f : α → Traced β} (ht : t.Asks P) (hf : (f t.value).Asks P) : (t >>= f).Asks P :=
  List.forall_mem_append.2 ⟨ht, hf⟩

theorem Asks.append_silent {t : Traced α} {f : α → β} (ht : t.Asks P) : (do return f (← t) : Traced β).Asks P :=
  ht.bind (asks_silent _)

end Traced

/-! ## Checks -/

/-- The calls that the tests make. -/
inductive Test.MayAsk : Test → Call → Prop
  | mx (domain : String) : MayAsk .email (.mx domain)
  | probe (url : String) : MayAsk .url (.probe url)
  | phone (number : String) (region : Option String) : MayAsk .tel (.phone number region)
  | config (key : String) : MayAsk .tel (.config key)
  | upload (path : String) : MayAsk .file (.upload path)

theorem Test.mayAsk_mx_iff {test : Test} {domain : String} : test.MayAsk (.mx domain) ↔ test = .email := by
  constructor
  · rintro ⟨⟩
    rfl
  · rintro rfl
    exact .mx domain

theorem Test.mayAsk_upload_iff {test : Test} {path : String} : test.MayAsk (.upload path) ↔ test = .file := by
  constructor
  · rintro ⟨⟩
    rfl
  · rintro rfl
    exact .upload path

namespace Check

/-! ### How a check goes on -/

section
variable {α β : Type}

theorem outcome_pure (a : α) : outcome (pure a) = .silent (.ok a) := rfl

theorem outcome_throw (fault : Fault) : outcome (throw fault : Check α) = .silent (.error fault) := rfl

theorem ofExcept_ok_bind (a : α) (f : α → Check β) : (ofExcept (.ok a) >>= f) = f a := rfl

theorem outcome_ask_bind (c : Call) (answer : α) (f : α → Check β) :
    outcome (ask c answer >>= f) = ⟨c :: (f answer).outcome.calls, (f answer).outcome.value⟩ := rfl

section
variable {x : Check α} {calls : List Call}

theorem outcome_bind_of_ok {a : α} (h : x.outcome = ⟨calls, .ok a⟩) (f : α → Check β) :
    outcome (x >>= f) = ⟨calls ++ (f a).outcome.calls, (f a).outcome.value⟩ :=
  congrArg (fun t : Traced (Except Fault α) => (t >>= ExceptT.bindCont f : Traced (Except Fault β))) h

theorem outcome_bind_of_error {fault : Fault} (h : x.outcome = ⟨calls, .error fault⟩) (f : α → Check β) :
    outcome (x >>= f) = ⟨calls, .error fault⟩ := by
  refine (congrArg (fun t : Traced (Except Fault α) => (t >>= ExceptT.bindCont f : Traced (Except Fault β))) h).trans ?_
  exact congrArg (Traced.mk · _) (List.append_nil calls)

end

theorem outcome_lift_bind (t : Traced α) (f : α → Check β) : outcome ((ExceptT.lift t : Check α) >>= f) =
    ⟨t.calls ++ (f t.value).outcome.calls, (f t.value).outcome.value⟩ := by
  have hlift : outcome (ExceptT.lift t) = ⟨t.calls, .ok t.value⟩ := congrArg (Traced.mk · _) (List.append_nil _)
  exact outcome_bind_of_ok hlift f

end

/-! ### Whom a check asks -/

section
variable {α β : Type} {P : Call → Prop}

theorem asks_pure (a : α) : (outcome (pure a)).Asks P := Traced.asks_silent _

theorem asks_throw (fault : Fault) : (outcome (throw fault : Check α)).Asks P := Traced.asks_silent _

theorem asks_ofExcept (r : Except Fault α) : (outcome (ofExcept r)).Asks P := Traced.asks_silent _

theorem asks_ask {c : Call} (h : P c) (answer : α) : (outcome (ask c answer)).Asks P := Traced.asks_call h _

theorem asks_lift {t : Traced α} (h : t.Asks P) : (outcome (ExceptT.lift t)).Asks P := h.append_silent

theorem asks_bind {x : Check α} {f : α → Check β} (hx : x.outcome.Asks P) (hf : ∀ a, (f a).outcome.Asks P) :
    (x >>= f).outcome.Asks P := by
  refine Traced.Asks.bind hx ?_
  have hnext : ∀ r : Except Fault α, (outcome (ExceptT.mk (ExceptT.bindCont f r))).Asks P := by
    rintro (fault | a)
    · exact Traced.asks_silent _
    · exact hf a
  exact hnext x.outcome.value

end

section
variable (c : Collaborators) (scope : Scope) (t : Token) (s : Subject)

theorem asks_email : (email c t s).outcome.Asks (Test.MayAsk .email) := by
  unfold email
  refine asks_bind (asks_ofExcept _) fun address => ?_
  dsimp only
  split
  · exact asks_throw _
  · split
    · exact asks_pure _
    · refine asks_bind (asks_ask (.mx _) _) fun answer => ?_
      split
      · exact asks_pure _
      · exact asks_throw _
      · exact asks_throw _

theorem asks_url : (url c t s).outcome.Asks (Test.MayAsk .url) := by
  unfold url
  refine asks_bind (asks_ofExcept _) fun address => ?_
  split
  · split
    · exact asks_pure _
    · refine asks_bind (asks_ask (.probe _) _) fun answer => ?_
      split
      · split
        · exact asks_pure _
        · exact asks_throw _
      · exact asks_throw _
  · exact asks_throw _

theorem asks_file : (file scope s).outcome.Asks (Test.MayAsk .file) := by
  unfold file
  split
  · split
    · exact asks_pure _
    · split
      · exact asks_throw _
      · refine asks_bind (asks_ask (.upload _) _) fun genuine => ?_
        split
        · exact asks_pure _
        · exact asks_throw _
  · split
    · exact asks_pure _
    · exact asks_throw _

/-! ### Telephone numbers -/

theorem asks_firstOf (config : String → Option String) (keys : List String) :
    (Collaborators.firstOf config keys).Asks (Test.MayAsk .tel) := by
  induction keys with
  | nil => exact Traced.asks_silent _
  | cons key keys ih =>
    refine Traced.Asks.bind (Traced.asks_call (.config key) _) ?_
    split
    · split
      · exact ih
      · exact Traced.asks_silent _
    · exact ih

theorem asks_firstValid (number : String) (regions : List (Option String)) :
    (firstValid c number regions).Asks (Test.MayAsk .tel) := by
  induction regions with
  | nil => exact Traced.asks_silent _
  | cons region regions ih =>
    refine Traced.Asks.bind (Traced.asks_call (.phone number region) _) ?_
    split
    · split
      · exact Traced.asks_silent _
      · exact ih
    · exact ih

theorem asks_preferredRegions : (preferredRegions scope).outcome.Asks (Test.MayAsk .tel) := by
  unfold preferredRegions
  split
  · refine asks_bind (asks_lift (asks_firstOf _ _)) fun list => ?_
    split
    · exact asks_pure _
    · exact asks_pure _
  · exact asks_pure _

theorem asks_regions : (regions scope t).outcome.Asks (Test.MayAsk .tel) := by
  unfold regions
  dsimp only
  split
  · exact asks_bind (asks_preferredRegions scope) fun _ => asks_pure _
  · split
    · exact asks_throw _
    · exact asks_pure _

theorem asks_tel : (tel scope t s).outcome.Asks (Test.MayAsk .tel) := by
  unfold tel
  refine asks_bind (asks_regions scope t) fun regions => asks_bind (asks_ofExcept _) fun number => ?_
  refine asks_bind (asks_lift (asks_firstValid _ _ _)) fun phone => ?_
  split
  · exact asks_pure _
  · exact asks_throw _

/-! ### All tests -/

theorem asks_judge : (judge scope t s).outcome.Asks t.test.MayAsk := by
  unfold judge
  cases t.test with
  | email => exact asks_email _ t s
  | url => exact asks_url _ t s
  | tel => exact asks_tel scope t s
  | file => exact asks_file scope s
  | unknown name => exact asks_throw _
  | format | null | notNull | ignore => exact asks_pure _
  | _ => exact asks_ofExcept _

/-- A check asks no more than its test may. -/
theorem asks_evaluate : (evaluate scope t s).outcome.Asks t.test.MayAsk := by
  unfold evaluate
  split
  · exact asks_throw _
  · split
    · exact asks_pure _
    · exact asks_judge scope t s

end

end Check

/-! ## Walks -/

namespace Walk

section
variable {scope : Scope}

theorem asks_sweep {α : Type} {P : Call → Prop} {step : α → Traced Ending} {as : List α}
    (h : ∀ a ∈ as, (step a).Asks P) : (sweep step as).Asks P := by
  induction as with
  | nil => exact Traced.asks_silent _
  | cons a as ih =>
    obtain ⟨ha, has⟩ := List.forall_mem_cons.1 h
    refine ha.bind ?_
    split
    · exact Traced.asks_silent _
    · exact (ih has).append_silent

theorem asks_visit (checks : List Token) (acts : List Deferred) (probing : Bool) (path : List String) (v : Value) :
    (visit probing (leaf scope checks acts) path v).Asks fun c =>
      ∃ e ∈ placeEvaluations scope checks (v.places probing path), c ∈ e.run.calls := by
  have hsweep : (sweep (fun p => ending (leaf scope checks acts p.1 p.2)) (v.places probing path)).Asks fun c =>
      ∃ e ∈ placeEvaluations scope checks (v.places probing path), c ∈ e.run.calls := by
    apply asks_sweep
    intro place hplace c hc
    rw [show (ending (leaf scope checks acts place.1 place.2)).calls = _ from calls_leaf place.1 place.2] at hc
    obtain ⟨e, he, hc⟩ := List.mem_flatMap.1 hc
    exact ⟨e, List.mem_flatMap.2 ⟨place, hplace, he⟩, hc⟩
  rwa [← ending_visit v path] at hsweep

theorem asks_field (rule : FieldRule) (path : List String) (v : Value) :
    (field scope rule path v).Asks fun c => ∃ e ∈ rule.evaluations scope path v, c ∈ e.run.calls := by
  unfold FieldRule.evaluations FieldRule.wholeEvaluations FieldRule.placesOf FieldRule.leafChecks
  cases h : rule.judgesWhole v with
  | false =>
    rw [field_of_not_judgesWhole h, FieldRule.scopeOf, h]
    exact asks_visit _ _ _ _ _
  | true =>
    have hwhole : (checkLeaf (rule.scopeOf scope v) path rule.wholeChecks (.text arrayMark)).Asks fun c =>
        ∃ e ∈ evaluations (rule.scopeOf scope v) rule.wholeChecks (.text arrayMark), c ∈ e.run.calls := by
      intro c hc
      rw [calls_checkLeaf] at hc
      exact List.mem_flatMap.1 hc
    rw [field_of_judgesWhole h]
    refine (hwhole.mono fun c hc => ?_).bind ?_
    · obtain ⟨e, he, hc⟩ := hc
      exact ⟨e, List.mem_append_left _ he, hc⟩
    · cases (checkLeaf (rule.scopeOf scope v) path rule.wholeChecks (.text arrayMark)).value.2 with
      | some f => exact Traced.asks_silent _
      | none =>
        refine (asks_visit _ _ _ _ _).mono fun c hc => ?_
        obtain ⟨e, he, hc⟩ := hc
        exact ⟨e, List.mem_append_right _ he, hc⟩

/-- A walk of the tree puts the value of the field to the checks of the rule. -/
structure Visits (set : RuleSet) (tree : List (String × Value)) (name : String) (rule : FieldRule) (v : Value) : Prop where
  mem : (name, rule) ∈ set
  not_ignored : rule.ignore = false
  get?_eq : Keyed.get? tree name = some v

section
variable {set : RuleSet} {tree : List (String × Value)} (hset : Keyed.Distinct set)
include hset

/-- A walk asks no one but through the checks that its fields are due. -/
theorem asks_fields : (fields scope set tree).Asks fun c =>
    ∃ name rule v, Visits set tree name rule v ∧ ∃ e ∈ rule.evaluations scope [name] v, c ∈ e.run.calls := by
  have hsweep : (sweep (loneStep scope tree) set).Asks fun c =>
      ∃ name rule v, Visits set tree name rule v ∧ ∃ e ∈ rule.evaluations scope [name] v, c ∈ e.run.calls := by
    apply asks_sweep
    rintro ⟨name, rule⟩ hr
    by_cases hs : Skips tree (name, rule)
    · rw [loneStep, lone_of_skips hs]
      exact Traced.asks_silent _
    · obtain ⟨v, hv, hi⟩ := exists_of_not_skips hs
      rw [loneStep, lone_of_visits hi hv]
      exact (asks_field rule [name] v).mono fun c hc => ⟨name, rule, v, ⟨hr, hi, hv⟩, hc⟩
  rwa [← ending_fields hset] at hsweep

section
variable {notes : List Note} (h : (fields scope set tree).value.outcome = .ok notes) {name : String} {rule : FieldRule}
  {v : Value} (hv : Visits set tree name rule v)
include h hv

/-- In a walk that ends well, every check that a field is due accepts. -/
theorem accepts_of_visits : ∀ e ∈ rule.evaluations scope [name] v, e.Accepts := by
  obtain ⟨ns, hlone⟩ := (fields_ok_iff hset).1 ⟨notes, h⟩ _ hv.mem
  rw [lone_of_visits hv.not_ignored hv.get?_eq] at hlone
  exact field_ok_iff.1 ⟨ns, hlone⟩

/-- A walk that ends well has asked what the checks ask that a field is due. -/
theorem mem_calls_of_visits {e : Evaluation} (he : e ∈ rule.evaluations scope [name] v) {c : Call}
    (hc : c ∈ e.run.calls) : c ∈ (fields scope set tree).calls := by
  have hending : ending (fields scope set tree) = _ :=
    (ending_fields hset).trans (sweep_eq_of_ok ((fields_ok_iff hset).1 ⟨notes, h⟩))
  change c ∈ (ending (fields scope set tree)).calls
  rw [hending]
  refine List.mem_flatMap.2 ⟨_, hv.mem, ?_⟩
  rw [loneStep, lone_of_visits hv.not_ignored hv.get?_eq,
    field_eq_of_accepts (accepts_of_visits hset h hv)]
  exact List.mem_flatMap.2 ⟨e, he, hc⟩

end

end

end

end Walk

end FieldRules
