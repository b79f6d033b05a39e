import FieldRules.Proofs.Leaves
import FieldRules.Proofs.Rules
import Mathlib.Data.List.Basic
/-!
# Which checks a walk evaluates

An `Evaluation` is one check of one subject. `FieldRule.evaluations` lists those that the value of a field is due
by its rule: every leaf is put to the checks of the rule in their order, each of which sees what those before it
made of the leaf; and if the array is judged as one value, the checks that take the whole are put to a stand-in
first, and the others to the leaves. The walk of the field ends well just if these evaluations find no fault, it
replaces every leaf by what they make of it, and it calls no one but through them (`walk_evaluates`).
-/

namespace FieldRules

/-- One check of one subject. -/
structure Evaluation where
  scope : Scope
  token : Token
  subject : Subject

namespace Evaluation

def run (e : Evaluation) : Traced (Except Fault Outcome) := (Check.evaluate e.scope e.token e.subject).outcome

/-- The check finds no fault. -/
def Accepts (e : Evaluation) : Prop := ∃ outcome, e.run.value = .ok outcome

end Evaluation

namespace Walk

/-! ## The checks of a leaf -/

/-- The evaluations of checks on a leaf, in order, up to the first that finds a fault. -/
def evaluations (scope : Scope) : List Token → Value → List Evaluation
  | [], _ => []
  | t :: ts, v =>
    let e : Evaluation := ⟨scope, t, .ofValue v⟩
    match e.run.value with
    | .ok outcome => e :: evaluations scope ts (outcome.update v)
    | .error _ => [e]

/-- What the evaluations make of the leaf. -/
def threaded (scope : Scope) : List Token → Value → Value
  | [], v => v
  | t :: ts, v =>
    match (Evaluation.mk scope t (.ofValue v)).run.value with
    | .ok outcome => threaded scope ts (outcome.update v)
    | .error _ => v

section
variable {scope : Scope}

theorem calls_checkLeaf (path : List String) (ts : List Token) (v : Value) :
    (checkLeaf scope path ts v).calls = (evaluations scope ts v).flatMap fun e => e.run.calls := by
  induction ts generalizing v with
  | nil => rfl
  | cons t ts ih =>
    rw [checkLeaf, evaluations, Traced.calls_bind]
    cases he : (Check.evaluate scope t (.ofValue v)).outcome.value with
    | ok outcome => simp [Evaluation.run, he, ih]
    | error fault => simp [Evaluation.run, he]

theorem value_checkLeaf (path : List String) (ts : List Token) (v : Value) :
    (checkLeaf scope path ts v).value.1 = threaded scope ts v := by
  induction ts generalizing v with
  | nil => rfl
  | cons t ts ih =>
    rw [checkLeaf, threaded, Traced.value_bind]
    cases he : (Check.evaluate scope t (.ofValue v)).outcome.value with
    | ok outcome => simp [Evaluation.run, he, ih]
    | error fault => simp [Evaluation.run, he]

theorem checkLeaf_eq_none_iff (path : List String) {ts : List Token} {v : Value} :
    (checkLeaf scope path ts v).value.2 = none ↔ ∀ e ∈ evaluations scope ts v, e.Accepts := by
  induction ts generalizing v with
  | nil => simp [checkLeaf, evaluations, Traced.silent]
  | cons t ts ih =>
    rw [checkLeaf, evaluations, Traced.value_bind]
    cases he : (Check.evaluate scope t (.ofValue v)).outcome.value with
    | ok outcome => simp [Evaluation.Accepts, Evaluation.run, he, ih]
    | error fault => simp [Evaluation.Accepts, Evaluation.run, he]

/-- Unless a fault is found, every check is evaluated once, in order. -/
theorem tokens_evaluations {ts : List Token} {v : Value} (h : ∀ e ∈ evaluations scope ts v, e.Accepts) :
    (evaluations scope ts v).map (·.token) = ts := by
  induction ts generalizing v with
  | nil => rfl
  | cons t ts ih =>
    unfold evaluations at h ⊢
    cases he : (Evaluation.mk scope t (.ofValue v)).run.value with
    | ok outcome =>
      simp only [he, List.forall_mem_cons] at h
      simp [he, ih h.2]
    | error fault => simp [Evaluation.Accepts, he] at h

end

/-! ## The checks of a field -/

section
variable {scope : Scope} {checks : List Token} {acts : List Deferred}

theorem value_leaf (path : List String) (v : Value) :
    (leaf scope checks acts path v).value.value = threaded scope checks v := by
  rw [← value_checkLeaf path]
  rfl

theorem calls_leaf (path : List String) (v : Value) :
    (leaf scope checks acts path v).calls = (evaluations scope checks v).flatMap fun e => e.run.calls := by
  rw [← calls_checkLeaf path, leaf, Traced.calls_bind, Traced.calls_pure, List.append_nil]

theorem outcome_leaf_iff {path : List String} {v : Value} {notes : List Note} :
    (leaf scope checks acts path v).value.outcome = .ok notes ↔
      (∀ e ∈ evaluations scope checks v, e.Accepts) ∧ notes = [⟨path, acts⟩] := by
  rw [← checkLeaf_eq_none_iff path]
  unfold leaf
  rw [Traced.value_bind]
  rcases (checkLeaf scope path checks v).value with ⟨w, _ | f⟩ <;> simp [eq_comm]

end

end Walk

namespace FieldRule

/-- Is the value an array that the rule judges as one value? An array without entries is not. -/
def judgesWhole (rule : FieldRule) : Value → Bool
  | .map entries => rule.wholeArray && !entries.isEmpty
  | _ => false

/-- The checks that are put to the leaves of a value. -/
def leafChecks (rule : FieldRule) (v : Value) : List Token :=
  if rule.judgesWhole v then rule.entryChecks else rule.checks

/-- The scope of the checks of a value: an array that is judged as one value is in the stash. -/
def scopeOf (rule : FieldRule) (scope : Scope) (v : Value) : Scope :=
  if rule.judgesWhole v then { scope with stash := some (Walk.scalars v) } else scope

@[simp]
theorem scopeOf_collaborators (rule : FieldRule) (scope : Scope) (v : Value) :
    (rule.scopeOf scope v).collaborators = scope.collaborators := by
  unfold scopeOf
  split <;> rfl

/-- The evaluations on the stand-in of an array that is judged as one value. -/
def wholeEvaluations (rule : FieldRule) (scope : Scope) (v : Value) : List Evaluation :=
  if rule.judgesWhole v then Walk.evaluations (rule.scopeOf scope v) rule.wholeChecks (.text arrayMark) else []

/-- The leaves of a value, and the unset leaves that stand in for its empty maps. If the array is judged as one
value, its empty maps are passed over. -/
def placesOf (rule : FieldRule) (path : List String) (v : Value) : List (List String × Value) :=
  v.places (!rule.judgesWhole v) path

/-- All evaluations that the value of a field is due, in order. -/
def evaluations (rule : FieldRule) (scope : Scope) (path : List String) (v : Value) : List Evaluation :=
  rule.wholeEvaluations scope v ++ (rule.placesOf path v).flatMap fun place =>
    Walk.evaluations (rule.scopeOf scope v) (rule.leafChecks v) place.2

/-- What the evaluations make of the value: every leaf is what its checks make of it. -/
def checked (rule : FieldRule) (scope : Scope) (v : Value) : Value :=
  v.mapLeaves (Walk.threaded (rule.scopeOf scope v) (rule.leafChecks v))

end FieldRule

namespace Walk

section
variable {probing : Bool} {scope : Scope} {checks : List Token} {acts : List Deferred} {path : List String}
  {v : Value}

/-- The evaluations on the leaves in some places. -/
def placeEvaluations (scope : Scope) (checks : List Token) (places : List (List String × Value)) :
    List Evaluation :=
  places.flatMap fun place => evaluations scope checks place.2

theorem passes_leaf_iff (acts : List Deferred) {place : List String × Value} :
    Passes (fun p => ending (leaf scope checks acts p.1 p.2)) place ↔
      ∀ e ∈ evaluations scope checks place.2, e.Accepts := by
  simp only [Passes, ending, outcome_leaf_iff]
  constructor
  · rintro ⟨notes, h, -⟩
    exact h
  · exact fun h => ⟨_, h, rfl⟩

theorem forall_places_passes_iff (acts : List Deferred) {places : List (List String × Value)} :
    (∀ place ∈ places, Passes (fun p => ending (leaf scope checks acts p.1 p.2)) place) ↔
      ∀ e ∈ placeEvaluations scope checks places, e.Accepts := by
  simp only [passes_leaf_iff, placeEvaluations, List.mem_flatMap]
  constructor
  · rintro h e ⟨place, hp, he⟩
    exact h place hp e he
  · exact fun h place hp e he => h e ⟨place, hp, he⟩

/-- A visit ends well just if no check finds a fault in any place. -/
theorem visit_ok_iff : (∃ notes, (visit probing (leaf scope checks acts) path v).value.outcome = .ok notes) ↔
    ∀ e ∈ placeEvaluations scope checks (v.places probing path), e.Accepts := by
  rw [← forall_places_passes_iff acts, ← sweep_ok_iff, ← ending_visit]
  rfl

/-- A visit in which no check finds a fault makes the calls of the checks, replaces every leaf by what the checks
make of it, and notes the acts in every place. -/
theorem visit_eq_of_accepts (acts : List Deferred)
    (h : ∀ e ∈ placeEvaluations scope checks (v.places probing path), e.Accepts) :
    visit probing (leaf scope checks acts) path v =
      ⟨(placeEvaluations scope checks (v.places probing path)).flatMap fun e => e.run.calls,
        v.mapLeaves (threaded scope checks), .ok (notesAt acts (v.places probing path))⟩ := by
  have hpass := (forall_places_passes_iff acts).2 h
  have hending := (ending_visit v path).trans (sweep_eq_of_ok hpass)
  have hcalls : (visit probing (leaf scope checks acts) path v).calls =
      (placeEvaluations scope checks (v.places probing path)).flatMap fun e => e.run.calls := by
    rw [placeEvaluations, List.flatMap_assoc]
    refine (congrArg Traced.calls hending).trans (List.flatMap_congr fun place _ => ?_)
    exact calls_leaf _ _
  have hnotes : (visit probing (leaf scope checks acts) path v).value.outcome =
      .ok (notesAt acts (v.places probing path)) := by
    rw [notesAt, List.map_eq_flatMap]
    refine (congrArg Traced.value hending).trans (congrArg Except.ok (List.flatMap_congr fun place hp => ?_))
    obtain ⟨notes, hok⟩ := hpass place hp
    rw [hok, (outcome_leaf_iff.1 hok).2]
    rfl
  have hvalue := value_visit value_leaf v path _ hnotes
  rw [← hcalls, ← hvalue, ← hnotes]

end

section
variable {scope : Scope} {rule : FieldRule} {path : List String} {v : Value}

theorem field_of_not_judgesWhole (h : rule.judgesWhole v = false) :
    field scope rule path v = visit true (leaf scope rule.checks rule.acts) path v := by
  cases v with
  | map entries =>
    rw [FieldRule.judgesWhole] at h
    simp only [field, h, Bool.false_eq_true, if_false]
  | _ => rfl

section
variable (h : rule.judgesWhole v = true)
include h

theorem field_of_judgesWhole : field scope rule path v = (do
    match (← checkLeaf (rule.scopeOf scope v) path rule.wholeChecks (.text arrayMark)).2 with
    | some f => return ⟨v, .error f⟩
    | none => visit false (leaf (rule.scopeOf scope v) rule.entryChecks rule.acts) path v) := by
  rw [FieldRule.scopeOf, if_pos h]
  cases v with
  | map entries =>
    rw [FieldRule.judgesWhole] at h
    simp only [field, h, if_true]
    rfl
  | _ => cases h

/-- An array whose stand-in passes its checks is visited. -/
theorem field_of_accepts (hw : ∀ e ∈ rule.wholeEvaluations scope v, e.Accepts) : field scope rule path v =
    let visited := visit false (leaf (rule.scopeOf scope v) rule.entryChecks rule.acts) path v
    ⟨((rule.wholeEvaluations scope v).flatMap fun e => e.run.calls) ++ visited.calls, visited.value⟩ := by
  rw [FieldRule.wholeEvaluations, if_pos h] at hw ⊢
  simp only [field_of_judgesWhole h, bind, (checkLeaf_eq_none_iff path).2 hw, calls_checkLeaf]

/-- Of a field that ends well, the stand-in passes its checks. -/
theorem accepts_whole_of_field {notes : List Note} (hok : (field scope rule path v).value.outcome = .ok notes) :
    ∀ e ∈ rule.wholeEvaluations scope v, e.Accepts := by
  rw [FieldRule.wholeEvaluations, if_pos h, ← checkLeaf_eq_none_iff path]
  rw [field_of_judgesWhole h, Traced.value_bind] at hok
  cases hc : (checkLeaf (rule.scopeOf scope v) path rule.wholeChecks (.text arrayMark)).value.2 with
  | none => rfl
  | some f =>
    rw [hc] at hok
    cases hok

end

/-- A field ends well just if no check that it is due finds a fault. -/
theorem field_ok_iff : (∃ notes, (field scope rule path v).value.outcome = .ok notes) ↔
    ∀ e ∈ rule.evaluations scope path v, e.Accepts := by
  unfold FieldRule.evaluations FieldRule.placesOf FieldRule.leafChecks
  rw [List.forall_mem_append]
  cases h : rule.judgesWhole v with
  | false =>
    rw [field_of_not_judgesWhole h, visit_ok_iff]
    simp [FieldRule.wholeEvaluations, FieldRule.scopeOf, h, placeEvaluations]
  | true =>
    constructor
    · rintro ⟨notes, hok⟩
      have hw := accepts_whole_of_field h hok
      rw [field_of_accepts h hw] at hok
      exact ⟨hw, visit_ok_iff.1 ⟨notes, hok⟩⟩
    · rintro ⟨hw, hplaces⟩
      rw [field_of_accepts h hw]
      exact visit_ok_iff.2 hplaces

/-- A field that ends well has made the calls of its checks, every leaf is what its checks make of it, and the acts
of the rule are noted in every place. -/
theorem field_eq_of_accepts (h : ∀ e ∈ rule.evaluations scope path v, e.Accepts) :
    field scope rule path v = ⟨(rule.evaluations scope path v).flatMap fun e => e.run.calls,
      rule.checked scope v, .ok (notesAt rule.acts (rule.placesOf path v))⟩ := by
  obtain ⟨hw, hplaces⟩ := List.forall_mem_append.1 h
  unfold FieldRule.evaluations FieldRule.checked
  unfold FieldRule.placesOf FieldRule.leafChecks at *
  rw [List.flatMap_append]
  cases hj : rule.judgesWhole v with
  | false =>
    simp only [FieldRule.wholeEvaluations, FieldRule.scopeOf, hj, Bool.not_false, Bool.false_eq_true,
      if_false] at hplaces ⊢
    rw [field_of_not_judgesWhole hj]
    exact visit_eq_of_accepts rule.acts hplaces
  | true =>
    simp only [hj, Bool.not_true, if_true] at hplaces ⊢
    rw [field_of_accepts hj hw, visit_eq_of_accepts rule.acts hplaces]
    rfl

theorem mem_evaluations_iff {e : Evaluation} : e ∈ rule.evaluations scope path v ↔
    e ∈ rule.wholeEvaluations scope v ∨ ∃ below w, v.IsPlace (!rule.judgesWhole v) below w ∧
      e ∈ evaluations (rule.scopeOf scope v) (rule.leafChecks v) w := by
  rw [FieldRule.evaluations, List.mem_append, List.mem_flatMap]
  refine or_congr_right ⟨?_, ?_⟩
  · rintro ⟨⟨_, w⟩, hplace, he⟩
    obtain ⟨below, rfl, hw⟩ := (Value.mem_places_iff v).1 hplace
    exact ⟨below, w, hw, he⟩
  · rintro ⟨below, w, hw, he⟩
    exact ⟨(path ++ below, w), (Value.mem_places_iff v).2 ⟨below, rfl, hw⟩, he⟩

end

/-! ## The walk of a field -/

theorem fields_singleton {scope : Scope} {name : String} {rule : FieldRule} (hi : rule.ignore = false)
    {tree : List (String × Value)} {v : Value} (hv : Keyed.get? tree name = some v) :
    fields scope [(name, rule)] tree =
      let w := field scope rule [name] v
      ⟨w.calls, Keyed.put tree name w.value.value, w.value.outcome⟩ := by
  simp only [fields, hv, hi, Bool.false_eq_true, if_false, bind, pure, Traced.silent, Walked.after, Except.map]
  rcases (field scope rule [name] v).value with ⟨w, f | notes⟩ <;> simp

/-- The walk of a field that is not passed through ends well just if every check that the field is due accepts. In
that case it has made no calls but theirs; it has replaced every leaf, however deep, by what the checks of the leaf
make of it one after another, and left all else in its place; it has evaluated every check of every leaf, in order;
and it has evaluated every check of an array that is judged as one value once on the stand-in. -/
theorem walk_evaluates (scope : Scope) {name : String} {rule : FieldRule} (hi : rule.ignore = false)
    {tree : List (String × Value)} {v : Value} (hv : Keyed.get? tree name = some v) :
    let walk := fields scope [(name, rule)] tree
    ((∃ notes, walk.value.outcome = .ok notes) ↔ ∀ e ∈ rule.evaluations scope [name] v, e.Accepts) ∧
    ∀ notes, walk.value.outcome = .ok notes →
      walk.calls = ((rule.evaluations scope [name] v).flatMap fun e => e.run.calls) ∧
      walk.value.value = Keyed.put tree name (rule.checked scope v) ∧
      (∀ e, e ∈ rule.evaluations scope [name] v ↔ e ∈ rule.wholeEvaluations scope v ∨
        ∃ below w, v.IsPlace (!rule.judgesWhole v) below w ∧
          e ∈ evaluations (rule.scopeOf scope v) (rule.leafChecks v) w) ∧
      (∀ below w, v.IsPlace (!rule.judgesWhole v) below w →
        (evaluations (rule.scopeOf scope v) (rule.leafChecks v) w).map (·.token) = rule.leafChecks v) ∧
      (rule.wholeEvaluations scope v).map (·.token) = if rule.judgesWhole v then rule.wholeChecks else [] := by
  intro walk
  have hwalk : walk = _ := fields_singleton hi hv
  have hiff : (∃ notes, walk.value.outcome = .ok notes) ↔ ∀ e ∈ rule.evaluations scope [name] v, e.Accepts := by
    rw [← field_ok_iff, hwalk]
  refine ⟨hiff, fun notes h => ?_⟩
  have haccepts := hiff.1 ⟨notes, h⟩
  obtain ⟨hwhole, hplaces⟩ := List.forall_mem_append.1 haccepts
  rw [field_eq_of_accepts haccepts] at hwalk
  rw [hwalk]
  refine ⟨rfl, rfl, fun e => mem_evaluations_iff, fun below w hw => ?_, ?_⟩
  · exact tokens_evaluations fun e he => haccepts e (mem_evaluations_iff.2 (.inr ⟨below, w, hw, he⟩))
  · unfold FieldRule.wholeEvaluations at hwhole ⊢
    split
    · rename_i hj
      rw [if_pos hj] at hwhole
      exact tokens_evaluations hwhole
    · rfl

theorem walk_evaluates_sums :
    let scope : Scope := { collaborators := .mute }
    let rule := FieldRule.compiledText "enum:any:7;number:only"
    let v := Value.map [("0", .text "7"), ("1", .map [("x", .text "no 12"), ("y", .map [])])]
    rule.ignore = false ∧ (∀ e ∈ rule.evaluations scope ["sums"] v, e.Accepts) ∧
      (fields scope [("sums", rule)] [("sums", v)]).value.value =
        [("sums", .map [("0", .text "7"), ("1", .map [("x", .text "12"), ("y", .map [])])])] ∧
      (rule.wholeEvaluations scope v).map (·.token) = rule.wholeChecks := by
  intro scope rule v
  let made : FieldRule := {
    checks := [{ test := .enum, modifiers := [.any], values := ["7"] }, { test := .number, modifiers := [.only] }]
    wholeArray := true }
  have hmade : rule = made := by decide +kernel
  rw [hmade]
  have hi : made.ignore = false := rfl
  have hok : (fields scope [("sums", made)] [("sums", v)]).value.outcome =
      .ok [⟨["sums", "0"], []⟩, ⟨["sums", "1", "x"], []⟩] := by
    decide
  obtain ⟨hiff, hwalk⟩ := walk_evaluates scope hi (rfl : Keyed.get? [("sums", v)] "sums" = some v)
  obtain ⟨-, hvalue, -, -, hwhole⟩ := hwalk _ hok
  refine ⟨hi, hiff.1 ⟨_, hok⟩, hvalue.trans ?_, hwhole.trans (if_pos ?_)⟩ <;> decide

end Walk

end FieldRules
