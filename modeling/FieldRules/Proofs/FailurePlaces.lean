import FieldRules.Proofs.Frame
import FieldRules.Proofs.Options
import FieldRules.Proofs.Replay
/-!
# What a failure names

A failure names the place of a leaf by the keys on the way to it. The first check that finds a fault, in the order of the
rules and then of the tree, ends a call (`RuleSet.firstFault?`), and if there is none then the first act that fails does
(`RuleSet.firstActFault?`). The failure of a check names all keys, with points between them. The failure of an act leaves
out the empty keys at the front (`Deferred.placeText_eq`), so the two name the same place by the same text unless the
first of several keys is empty (`Validation.failure_named`).
-/

namespace FieldRules

/-! ## Texts of paths -/

namespace Walk

theorem pathText_cons_cons (key next : String) (path : List String) :
    pathText (key :: next :: path) = key ++ "." ++ pathText (next :: path) :=
  Text.join_append (List.cons_ne_nil key []) (List.cons_ne_nil next path)

theorem pathText_concat {path : List String} (h : path ≠ []) (key : String) :
    pathText (path ++ [key]) = pathText path ++ "." ++ key := by
  rw [pathText, Text.join_append h (List.cons_ne_nil key []), Text.join_singleton, pathText]

/-- A path that begins with a key that is not empty has a text. -/
theorem pathText_cons_ne_empty {key : String} (h : key ≠ "") (path : List String) : pathText (key :: path) ≠ "" := by
  cases path with
  | nil => simpa [pathText] using h
  | cons next path =>
    rw [pathText_cons_cons]
    simp

/-- Without its empty keys at the front a path has no longer text. -/
theorem length_pathText_dropWhile_le (path : List String) :
    (pathText (path.dropWhile (·.isEmpty))).length ≤ (pathText path).length := by
  induction path with
  | nil => rfl
  | cons key path ih =>
    rw [List.dropWhile_cons]
    split
    · refine ih.trans ?_
      cases path with
      | nil => simp [pathText]
      | cons next path =>
        rw [pathText_cons_cons, String.length_append]
        omega
    · exact le_rfl

end Walk

namespace Deferred

open Walk (pathText)

/-- An act names a place by the keys on the way to it, without the empty ones at the front. -/
theorem placeText_eq (path : List String) : placeText path = pathText (path.dropWhile (·.isEmpty)) := by
  induction path using List.reverseRecOn with
  | nil => rfl
  | append_singleton path key ih =>
    have hstep : placeText (path ++ [key]) = Plan.extendPath (placeText path) key := by
      rw [placeText, List.foldl_append]
      rfl
    rw [hstep, ih, List.dropWhile_append, Plan.extendPath]
    cases hrest : path.dropWhile (·.isEmpty) with
    | nil =>
      -- No key with a text came before this one.
      by_cases hkey : key = "" <;> simp [hkey, pathText]
    | cons first rest =>
      have hfirst : first ≠ "" := by
        have hhead := List.head?_dropWhile_not (·.isEmpty) path
        rw [hrest] at hhead
        simpa using hhead
      have hne := Walk.pathText_cons_ne_empty hfirst rest
      rw [if_neg (by simpa using hne)]
      exact (Walk.pathText_concat (List.cons_ne_nil first rest) key).symm

/-- An act names a place by all the keys on the way to it, unless the first of several keys is empty. -/
theorem placeText_eq_pathText_iff (path : List String) :
    placeText path = pathText path ↔ path.head? ≠ some "" ∨ path = [""] := by
  rw [placeText_eq]
  cases path with
  | nil => simp
  | cons key path =>
    by_cases hkey : key = ""
    · subst hkey
      cases path with
      | nil => simp [pathText]
      | cons next path =>
        have hshort := Walk.length_pathText_dropWhile_le (next :: path)
        constructor
        · intro h
          have hlength := congrArg String.length h
          rw [Walk.pathText_cons_cons, String.length_append, String.length_append] at hlength
          have hpoint : ("" : String).length + ".".length = 1 := by decide
          rw [List.dropWhile_cons, if_pos (by rfl)] at hlength
          omega
        · simp
    · simp [hkey]

end Deferred

/-! ## The first check that finds a fault -/

/-- The fault that the check finds. -/
def Evaluation.fault? (e : Evaluation) : Option Fault :=
  match e.run.value with
  | .ok _ => none
  | .error fault => some fault

namespace Walk

def Ending.failure? : Ending → Option Failure
  | .ok _ => none
  | .error f => some f

/-- The fault that the checks of a leaf find first, with the place of the leaf. -/
def faultAt? (scope : Scope) (checks : List Token) (place : List String × Value) : Option (List String × Fault) :=
  ((evaluations scope checks place.2).findSome? (·.fault?)).map fun fault => (place.1, fault)

/-- The failure of a check that finds a fault in a place. -/
def failureOf (found : List String × Fault) : Failure := { fault := found.2, field := some (pathText found.1) }

/-- A row fails with the failure of the first step that fails. -/
theorem failure_sweep {α : Type} {step : α → Traced Ending} (as : List α) :
    Ending.failure? (sweep step as).value = as.findSome? fun a => Ending.failure? (step a).value := by
  induction as with
  | nil => rfl
  | cons a as ih =>
    rw [List.findSome?_cons, ← ih]
    cases ha : (step a).value with
    | error f =>
      rw [sweep_cons_of_error ha]
      rfl
    | ok notes =>
      rw [sweep_cons_of_ok ha]
      cases (sweep step as).value <;> rfl

section
variable {scope : Scope} {checks : List Token} {acts : List Deferred}

theorem failure_checkLeaf (place : List String × Value) :
    (checkLeaf scope place.1 checks place.2).value.2 = (faultAt? scope checks place).map failureOf := by
  obtain ⟨path, v⟩ := place
  induction checks generalizing v with
  | nil => rfl
  | cons t ts ih =>
    rw [checkLeaf, faultAt?, evaluations, Traced.value_bind]
    cases he : (Check.evaluate scope t (.ofValue v)).outcome.value with
    | ok outcome =>
      simp only [Evaluation.run, he, List.findSome?_cons, Evaluation.fault?]
      exact ih _
    | error fault =>
      simp only [Evaluation.run, he, List.findSome?_cons, Evaluation.fault?]
      rfl

theorem failure_leaf (place : List String × Value) :
    Ending.failure? (leaf scope checks acts place.1 place.2).value.outcome =
      (faultAt? scope checks place).map failureOf := by
  rw [← failure_checkLeaf, leaf, Traced.value_bind]
  rcases (checkLeaf scope place.1 checks place.2).value with ⟨w, _ | f⟩ <;> rfl

/-- A visit fails at the first place where a check finds a fault. -/
theorem failure_visit (probing : Bool) (path : List String) (v : Value) :
    Ending.failure? (visit probing (leaf scope checks acts) path v).value.outcome =
      ((v.places probing path).findSome? (faultAt? scope checks)).map failureOf := by
  have hvisit : ending (visit probing (leaf scope checks acts) path v) = _ := ending_visit v path
  have hending := congrArg (fun t : Traced Ending => Ending.failure? t.value) hvisit
  simp only [failure_sweep] at hending
  rw [List.map_findSome?]
  refine hending.trans (RuleSet.findSome?_congr fun place _ => ?_)
  exact failure_leaf place

end

end Walk

namespace FieldRule

/-- The fault that the checks of a field find first, with its place: that of the array, if its stand-in is refused, or
that of a leaf. -/
def firstFault? (rule : FieldRule) (scope : Scope) (path : List String) (v : Value) :
    Option (List String × Fault) :=
  (((rule.wholeEvaluations scope v).findSome? (·.fault?)).map fun fault => (path, fault)).or
    ((rule.placesOf path v).findSome? (Walk.faultAt? (rule.scopeOf scope v) (rule.leafChecks v)))

end FieldRule

/-- The fault that the checks of a call find first, in the order of the rules and then of the tree, with its place. -/
def RuleSet.firstFault? (scope : Scope) (set : RuleSet) (tree : List (String × Value)) :
    Option (List String × Fault) :=
  set.findSome? fun r =>
    if r.2.ignore then none else (Keyed.get? tree r.1).bind (r.2.firstFault? scope [r.1])

namespace Walk

section
variable {scope : Scope}

theorem failure_field (rule : FieldRule) (path : List String) (v : Value) :
    Ending.failure? (field scope rule path v).value.outcome = (rule.firstFault? scope path v).map failureOf := by
  unfold FieldRule.firstFault? FieldRule.wholeEvaluations FieldRule.placesOf FieldRule.leafChecks FieldRule.scopeOf
  cases h : rule.judgesWhole v with
  | false =>
    rw [field_of_not_judgesWhole h, failure_visit]
    rfl
  | true =>
    have hwhole : (checkLeaf (rule.scopeOf scope v) path rule.wholeChecks (.text arrayMark)).value.2 = _ :=
      failure_checkLeaf (path, .text arrayMark)
    rw [field_of_judgesWhole h, Traced.value_bind]
    simp only [if_true, Bool.not_true, Option.map_or] at hwhole ⊢
    rw [FieldRule.scopeOf, if_pos h] at hwhole ⊢
    rw [faultAt?] at hwhole
    rw [← hwhole]
    cases hc : (checkLeaf { scope with stash := some (scalars v) } path rule.wholeChecks (.text arrayMark)).value.2 with
    | some f => rfl
    | none =>
      rw [Option.none_or]
      exact failure_visit false path v

/-- A walk fails with the fault that its checks find first. -/
theorem failure_fields {set : RuleSet} (hset : Keyed.Distinct set) (tree : List (String × Value)) :
    Ending.failure? (fields scope set tree).value.outcome = (set.firstFault? scope tree).map failureOf := by
  have hwalk : ending (fields scope set tree) = _ := ending_fields hset
  have hending := congrArg (fun t : Traced Ending => Ending.failure? t.value) hwalk
  simp only [failure_sweep] at hending
  rw [RuleSet.firstFault?, List.map_findSome?]
  refine hending.trans (RuleSet.findSome?_congr fun r _ => ?_)
  obtain ⟨name, rule⟩ := r
  by_cases hs : Skips tree (name, rule)
  · have hnone : (if rule.ignore then none else (Keyed.get? tree name).bind (rule.firstFault? scope [name])) = none := by
      rcases hs with hs | hs
      · simp [show Keyed.get? tree name = none from hs]
      · simp [show rule.ignore = true from hs]
    rw [loneStep, lone_of_skips hs, Function.comp_apply, hnone]
    rfl
  · obtain ⟨v, hv, hi⟩ := exists_of_not_skips hs
    rw [loneStep, lone_of_visits hi hv scope, Function.comp_apply, hi, hv]
    exact failure_field rule [name] v

end

end Walk

/-- Where the first fault is found there is a node of the tree. -/
theorem RuleSet.firstFault?_at {set : RuleSet} {tree : List (String × Value)} {scope : Scope} {path : List String}
    {fault : Fault} (h : set.firstFault? scope tree = some (path, fault)) : ∃ node, (Value.map tree).At path node := by
  obtain ⟨⟨name, rule⟩, -, h⟩ := List.exists_of_findSome?_eq_some h
  split at h
  · cases h
  obtain ⟨v, hv, h⟩ := Option.bind_eq_some_iff.1 h
  have hm := Keyed.mem_of_get? hv
  rcases Option.or_eq_some_iff.1 h with h | ⟨-, h⟩
  · obtain ⟨_, -, he⟩ := Option.map_eq_some_iff.1 h
    obtain rfl := congrArg Prod.fst he
    exact ⟨v, .entry hm (.root v)⟩
  · obtain ⟨⟨place, w⟩, hplace, h⟩ := List.exists_of_findSome?_eq_some h
    obtain ⟨_, -, he⟩ := Option.map_eq_some_iff.1 h
    obtain rfl := congrArg Prod.fst he
    obtain ⟨below, rfl, ⟨hat, -⟩ | ⟨-, hat, -⟩⟩ := (Value.mem_places_iff v).1 hplace
    · exact ⟨w, .entry hm hat⟩
    · exact ⟨_, .entry hm hat⟩

/-! ## The first act that fails -/

namespace Deferred

/-- The fault of acts on the leaf in a place, if they fail, with the place. -/
def faultAt? (acts : List Deferred) (place : List String × Value) : Option (List String × Fault) :=
  (actAll acts place.2).2.map fun fault => (place.1, fault)

/-- The failure of an act that fails in a place. -/
def failureOf (found : List String × Fault) : Failure := { fault := found.2, field := some (placeText found.1) }

theorem failureAt?_eq (acts : List Deferred) (place : List String × Value) :
    failureAt? acts place = (faultAt? acts place).map failureOf := by
  rw [failureAt?, faultAt?, Option.map_map]
  rfl

end Deferred

/-- The fault of the first act that fails, in the order of the rules and then of the tree, with its place. -/
def RuleSet.firstActFault? (set : RuleSet) (fields : List (String × Value)) : Option (List String × Fault) :=
  set.findSome? fun r => (dueLeaves fields r).findSome? (Deferred.faultAt? r.2.acts)

theorem RuleSet.firstActFault?_at {set : RuleSet} {fields : List (String × Value)} {path : List String} {fault : Fault}
    (h : set.firstActFault? fields = some (path, fault)) :
    ∃ leaf, (Value.map fields).At path leaf ∧ leaf.isMap = false := by
  obtain ⟨⟨name, rule⟩, -, h⟩ := List.exists_of_findSome?_eq_some h
  obtain ⟨⟨place, w⟩, hplace, h⟩ := List.exists_of_findSome?_eq_some h
  obtain ⟨_, -, he⟩ := Option.map_eq_some_iff.1 h
  obtain rfl := congrArg Prod.fst he
  unfold dueLeaves at hplace
  split at hplace
  · cases hplace
  obtain ⟨v, hv, hplace⟩ := List.mem_flatMap.1 hplace
  have hm := Keyed.mem_of_get? (Option.mem_toList.1 hv)
  obtain ⟨below, rfl, ⟨hat, hw⟩ | ⟨hprobing, -⟩⟩ := (Value.mem_places_iff v).1 hplace
  · exact ⟨w, .entry hm hat, hw⟩
  · cases hprobing

/-- Performing the plan of a walk fails with the fault of the first act that fails. -/
theorem Walk.failure_plan {scope : Scope} {set : RuleSet} {tree walked : List (String × Value)} {notes : List Note}
    (hset : Keyed.Distinct set) (htree : (Value.map tree).WellKeyed)
    (h : (fields scope set tree).value = ⟨walked, .ok notes⟩) :
    (Plan.performTree (plan notes) (.map walked)).2 = (set.firstActFault? walked).map Deferred.failureOf := by
  obtain ⟨-, hfailure, -⟩ := plan_settles hset htree h
  rw [hfailure, RuleSet.firstActFault?, List.map_findSome?]
  refine RuleSet.findSome?_congr fun r _ => ?_
  rw [Function.comp_apply, List.map_findSome?]
  exact RuleSet.findSome?_congr fun place _ => Deferred.failureAt?_eq r.2.acts place

/-! ## Calls -/

namespace Validation

theorem wellKeyed_fieldsOf {tree : Value} (h : tree.WellKeyed) : (Value.map (fieldsOf tree)).WellKeyed := by
  rcases tree with _ | _ | _ | _ | _ | _ | _ | fields
  case map => exact h
  all_goals
    refine Value.wellKeyed_map.2 ⟨List.pairwise_singleton _ _, fun e he => ?_⟩
    obtain rfl := List.mem_singleton.1 he
    exact h

section
variable {engine : Validation} {tree : Value} {rules : List (String × Json)} {policy : Policy} {set : RuleSet}

/-- What the checks find first fails the call; if they find nothing then the first act that fails does. -/
theorem performed_walk (scope : Scope) {sent : List (String × Value)} (hset : Keyed.Distinct set)
    (hsent : (Value.map sent).WellKeyed) :
    let walked := (Walk.fields scope set sent).value
    (∀ found, set.firstFault? scope sent = some found → performed walked = .error (Walk.failureOf found)) ∧
      (set.firstFault? scope sent = none →
        (∀ found, set.firstActFault? walked.value = some found → performed walked = .error (Deferred.failureOf found)) ∧
          (set.firstActFault? walked.value = none → ∃ settled, performed walked = .ok settled)) := by
  intro walked
  have hwalk : Walk.Ending.failure? walked.outcome = (set.firstFault? scope sent).map Walk.failureOf :=
    Walk.failure_fields hset sent
  rcases hw : walked with ⟨fields, f | notes⟩
  · rw [hw] at hwalk
    refine ⟨fun found hfound => ?_, fun hnone => ?_⟩
    · rw [hfound] at hwalk
      exact congrArg Except.error (Option.some.inj hwalk)
    · rw [hnone] at hwalk
      cases hwalk
  · rw [hw] at hwalk
    have hplan := Walk.failure_plan hset hsent hw
    refine ⟨fun found hfound => ?_, fun _ => ⟨fun found hfound => ?_, fun hnone => ?_⟩⟩
    · rw [hfound] at hwalk
      cases hwalk
    · rw [hfound] at hplan
      rcases hperformed : Plan.performTree (Walk.plan notes) (.map fields) with ⟨settled, failure⟩
      rw [hperformed] at hplan
      obtain rfl : failure = some (Deferred.failureOf found) := hplan
      simp only [performed, hperformed, bind, Except.bind, throw, throwThe, MonadExceptOf.throw]
    · rw [hnone] at hplan
      rcases hperformed : Plan.performTree (Walk.plan notes) (.map fields) with ⟨settled, failure⟩
      rw [hperformed] at hplan
      obtain rfl : failure = none := hplan
      exact ⟨settled, by simp only [performed, hperformed, bind, Except.bind, pure, Except.pure]⟩

/-- A failure names the place of the fault by the keys on the way to it. If a check finds a fault then the first one
fails the call, and the failure names all keys of its place, with points between them. If no check does but an act
fails then the first one fails the call, and the failure leaves out the empty keys at the front; so it names the place
as a check does unless the first of several keys is empty. A call in which no check finds a fault and no act fails is
valid. -/
theorem failure_named (hpolicy : engine.policy (splitRules rules).1 = .ok policy)
    (hset : RuleSet.ofTexts (splitRules rules).2 = .ok set) (htree : tree.WellKeyed) :
    let call := engine.validateTree tree (.object rules)
    let sent := set.prefill (fieldsOf tree)
    let walk := Walk.fields engine.scope set sent
    (∀ path fault, set.firstFault? engine.scope sent = some (path, fault) →
      (∃ node, (Value.map sent).At path node) ∧
        ∃ f, engine.Fails walk.calls f call ∧ f.fault = fault ∧ f.field = some (Walk.pathText path)) ∧
    (set.firstFault? engine.scope sent = none →
      (∀ path fault, set.firstActFault? walk.value.value = some (path, fault) →
        (∃ leaf, (Value.map walk.value.value).At path leaf ∧ leaf.isMap = false) ∧
          ∃ f, engine.Fails walk.calls f call ∧ f.fault = fault ∧
            f.field = some (Walk.pathText (path.dropWhile (·.isEmpty))) ∧
            (f.field = some (Walk.pathText path) ↔ path.head? ≠ some "" ∨ path = [""])) ∧
      (set.firstActFault? walk.value.value = none → ∃ data, call = ⟨walk.calls, .ok (.valid data)⟩)) := by
  intro call sent walk
  have hrun : engine.run tree rules = ⟨walk.calls, (performed walk.value).map (deliver policy set)⟩ :=
    run_eq hpolicy hset tree
  have hsent : (Value.map sent).WellKeyed := RuleSet.wellKeyed_prefill (wellKeyed_fieldsOf htree)
  obtain ⟨hcheck, hact⟩ := performed_walk engine.scope (RuleSet.distinct_ofTexts hset) hsent
  -- The failure is told by the engine without a change of its fault or its field.
  have hfails : ∀ f : Failure, performed walk.value = .error f →
      ∃ f', engine.Fails walk.calls f' call ∧ f'.fault = f.fault ∧ f'.field = f.field := by
    intro f hf
    rw [hf] at hrun
    exact ⟨_, fails_of_run hrun, by unfold told; split <;> rfl, by unfold told; split <;> rfl⟩
  refine ⟨fun path fault hfound => ⟨RuleSet.firstFault?_at hfound, hfails _ (hcheck _ hfound)⟩,
    fun hnone => ⟨fun path fault hfound => ?_, fun hdone => ?_⟩⟩
  · obtain ⟨f, hf, hfault, hfield⟩ := hfails _ ((hact hnone).1 _ hfound)
    have hplace : f.field = some (Deferred.placeText path) := hfield
    refine ⟨RuleSet.firstActFault?_at hfound, f, hf, hfault, ?_, ?_⟩
    · rw [hplace, Deferred.placeText_eq]
    · rw [hplace, Option.some_inj]
      exact Deferred.placeText_eq_pathText_iff path
  · obtain ⟨settled, hsettled⟩ := (hact hnone).2 hdone
    rw [hsettled] at hrun
    exact ⟨_, validateTree_of_run hrun⟩

theorem failure_named_size :
    let rules := [("size", Json.string "format:integer")]
    let tree := Value.map [("size", .map [("a", .text "x")])]
    alone.policy (splitRules rules).1 = .ok {} ∧ tree.WellKeyed ∧
      ∃ set : RuleSet, RuleSet.ofTexts (splitRules rules).2 = .ok set ∧
        ∃ f, alone.Fails [] f (alone.validateTree tree (.object rules)) ∧ f.field = some "size.a" := by
  intro rules tree
  have hread : FieldRule.ofTokens (tokenize "format:integer") = .ok { acts := [.format .integer] } := by
    rw [tokenize_of_ascii (by decide) (by decide)]
    decide
  have hset : RuleSet.ofTexts (splitRules rules).2 = .ok [("size", { acts := [.format .integer] })] :=
    ofTexts_of_one rfl hread
  have htree : tree.WellKeyed := by
    have htext : (Value.text "x").WellKeyed := Value.wellKeyed_of_leaf rfl
    simp [tree, Value.wellKeyed_map, htext, Keyed.Distinct, Keyed.keys]
  obtain ⟨-, hact⟩ := @failure_named alone tree rules {} _ rfl hset htree
  obtain ⟨-, f, hf, -, hfield, -⟩ := (hact rfl).1 ["size", "a"] (.notConvertible "x" .integer) (by decide)
  exact ⟨rfl, htree, _, hset, f, hf, hfield⟩

/-- Below an empty key an act fails at a place that it names without the key. A check names it with the key. -/
theorem empty_key_unnamed :
    let tree := Value.map [("", .map [("a", .text "x")])]
    Walk.pathText ["", "a"] = ".a" ∧
      (∃ f : Failure, (alone.validateTree tree (.object [("", .string "format:integer")])).value = .ok (.invalid f) ∧
        f.field = some "a") ∧
      ∃ f : Failure, (alone.validateTree tree (.object [("", .string "number")])).value = .ok (.invalid f) ∧
        f.field = some ".a" := by
  refine ⟨rfl, ⟨{ fault := .notConvertible "x" .integer, field := some "a" }, ?_, rfl⟩,
    ⟨{ fault := .notNumber, field := some ".a" }, ?_, rfl⟩⟩
  · decide +kernel
  · decide +kernel

end

end Validation

end FieldRules
