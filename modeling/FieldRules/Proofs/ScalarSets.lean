import FieldRules.Proofs.WholeArray
import Mathlib.Data.Set.Basic
/-!
# Membership of sets

The modes of a membership test that look at an array ask of it no more than which texts its scalars have: not in what
order, how often, how deep or under what keys (`Relation.holds_iff`). So for a rule of one such test two arrays are the
same if their scalars have the same texts, and a walk of either ends with the same failure or with none
(`Walk.verdict_of_texts`).
-/

namespace FieldRules

/-- The texts of the scalar leaves of a tree, at any depth. -/
def Value.texts (v : Value) : Set String := {s | ∃ below w, v.At below w ∧ w.scalarText? = some s}

theorem Value.texts_eq (v : Value) : v.texts = {s | s ∈ Walk.scalars v} := Set.ext fun _ => Walk.mem_scalars_iff.symm

/-- What a relation asks of the submitted texts and the members of a list. That of the joined text is no relation of
sets. -/
def Relation.HoldsOf (r : Relation) (texts members : Set String) : Prop :=
  match r with
  | .joined => False
  | .superset => members ⊆ texts
  | .intersects => (texts ∩ members).Nonempty
  | .subset => texts.Nonempty ∧ texts ⊆ members

theorem Relation.holds_iff {r : Relation} (hr : r ≠ .joined) (entries list : List String) :
    r.holds entries list = true ↔ r.HoldsOf {s | s ∈ entries} {s | s ∈ list} := by
  cases r with
  | joined => exact absurd rfl hr
  | superset => simp [holds, HoldsOf, Set.subset_def]
  | intersects => simp [holds, HoldsOf, Set.Nonempty, and_comm]
  | subset =>
    simp only [holds, HoldsOf, Bool.and_eq_true, Bool.not_eq_true', List.isEmpty_eq_false_iff_exists_mem,
      List.all_eq_true, List.contains_iff_mem, Set.Nonempty, Set.subset_def, Set.mem_ofPred_eq]

theorem Relation.ofToken_eq_joined_iff {t : Token} :
    ofToken t = .joined ↔ ∀ m ∈ [Modifier.array, .any, .only], m ∉ t.modifiers := by
  simp only [List.forall_mem_cons, List.not_mem_nil, false_imp_iff, implies_true, and_true]
  unfold ofToken
  split_ifs with harray hany honly <;> simp_all [Token.has]

/-- A membership test with a modifier that it has asks for a relation of sets. -/
theorem Relation.ofToken_ne_joined {t : Token} (ht : t.test.isMembership = true) (hm : t.modifiers ≠ [])
    (hs : t.unsupported? = none) : Relation.ofToken t ≠ .joined := by
  obtain ⟨m, hmem⟩ := List.exists_mem_of_ne_nil _ hm
  have hsupported : t.test.supports m = true := Token.unsupported?_eq_none_iff.1 hs m hmem
  have hmode : m ∈ [Modifier.array, .any, .only] := by
    rcases Test.isMembership_iff.1 ht with ht | ht <;>
      simpa [ht, Test.supports, Test.modifiers, @eq_comm _ m] using hsupported
  exact fun hjoined => ofToken_eq_joined_iff.1 hjoined m hmode hmem

namespace Walk

variable {t : Token} {v w : Value}

theorem holds_scalars_iff (ht : t.test.isMembership = true) (hm : t.modifiers ≠ []) (hs : t.unsupported? = none) :
    (Relation.ofToken t).holds (scalars v) t.values = true ↔ (Relation.ofToken t).HoldsOf v.texts {s | s ∈ t.values} := by
  rw [Relation.holds_iff (Relation.ofToken_ne_joined ht hm hs), Value.texts_eq]

/-- Which arrays a membership test with modifiers accepts. -/
theorem acceptsWhole_texts_iff {scope : Scope} (ht : t.test.isMembership = true) (hm : t.modifiers ≠ []) :
    AcceptsWhole scope v t ↔ t.unsupported? = none ∧ t.values ≠ [] ∧
      ((Relation.ofToken t).HoldsOf v.texts {s | s ∈ t.values} ↔ t.test = .enum) := by
  rw [acceptsWhole_membership_iff ht]
  refine and_congr_right fun hs => ?_
  rw [Token.Admits, holds_scalars_iff ht hm hs]

/-- What a membership test with modifiers finds of an array depends on the texts of its scalars only. -/
theorem evaluate_standIn_congr (scope : Scope) (ht : t.test.isMembership = true) (hm : t.modifiers ≠ [])
    (h : v.texts = w.texts) :
    (Check.evaluate (stashing scope v) t (.text arrayMark)).outcome.value =
      (Check.evaluate (stashing scope w) t (.text arrayMark)).outcome.value := by
  cases hs : t.unsupported? with
  | some fault => rw [Check.evaluate_of_unsupported hs, Check.evaluate_of_unsupported hs]
  | none =>
    have hmember : Check.isMember (stashing scope v) t (.text arrayMark) =
        Check.isMember (stashing scope w) t (.text arrayMark) := by
      have hholds : (Relation.ofToken t).holds (scalars v) t.values = (Relation.ofToken t).holds (scalars w) t.values := by
        rw [Bool.eq_iff_iff, holds_scalars_iff ht hm hs, holds_scalars_iff ht hm hs, h]
      simp only [Check.isMember, stashing, Check.submitted_standIn, hholds]
    rw [Check.value_evaluate_of_supported hs, Check.value_evaluate_of_supported hs]
    have hjudge : (Check.judge (stashing scope v) t (.text arrayMark)).outcome.value =
        (Check.judge (stashing scope w) t (.text arrayMark)).outcome.value := by
      rcases Test.isMembership_iff.1 ht with ht | ht
      · simp only [Check.judge, ht, Check.enum, hmember]
      · simp only [Check.judge, ht, Check.nenum, hmember]
    rw [hjudge]

variable {scope : Scope} {rule : FieldRule} {path : List String}

/-- Of an array whose one check takes it as a whole, the walk fails as that check does of the stand-in. -/
theorem outcome_field_of_one (hj : rule.judgesWhole v = true) (hchecks : rule.checks = [t])
    (ht : t.test.takesWholeArray = true) : (field scope rule path v).value.outcome =
      match (Check.evaluate (stashing scope v) t (.text arrayMark)).outcome.value with
      | .ok _ => .ok (notesAt rule.acts (v.places false path))
      | .error fault => .error { fault, field := some (pathText path) } := by
  have hwhole : rule.wholeChecks = [t] := by simp [FieldRule.wholeChecks, hchecks, ht]
  have hentry : rule.entryChecks = [] := by simp [FieldRule.entryChecks, hchecks, ht]
  have hscope : rule.scopeOf scope v = stashing scope v := if_pos hj
  have hvisit := @visit_eq_of_accepts false (stashing scope v) [] path v rule.acts (by
    simp [placeEvaluations, evaluations])
  have hsubject : Subject.ofValue (.text arrayMark) = .text arrayMark := rfl
  rw [field_of_judgesWhole hj, hscope, hwhole, hentry, hvisit, Traced.value_bind, checkLeaf, Traced.value_bind, hsubject]
  cases (Check.evaluate (stashing scope v) t (.text arrayMark)).outcome.value with
  | ok outcome => rfl
  | error fault => rfl

theorem field_of_one_ok_iff (hj : rule.judgesWhole v = true) (hchecks : rule.checks = [t])
    (ht : t.test.takesWholeArray = true) :
    (∃ notes, (field scope rule path v).value.outcome = .ok notes) ↔ AcceptsWhole scope v t := by
  rw [outcome_field_of_one hj hchecks ht, AcceptsWhole, Evaluation.Accepts, Evaluation.run]
  cases (Check.evaluate (stashing scope v) t (.text arrayMark)).outcome.value <;> simp

/-- A rule of one membership test with modifiers judges two arrays alike whose scalars have the same texts, wherever and
in whatever trees they stand: the walk ends well for both or for neither, and what it fails with is the same. It ends
well if the relation that the modifiers ask for holds between those texts and the list, or for `nenum` if it does
not. -/
theorem verdict_of_texts (scope : Scope) (ht : t.test.isMembership = true) (hm : t.modifiers ≠ [])
    (hrule : FieldRule.ofTokens [t] = .ok rule) {name : String} {one other as bs : List (String × Value)}
    (hone : Keyed.get? one name = some (.map as)) (hother : Keyed.get? other name = some (.map bs)) (has : as ≠ [])
    (hbs : bs ≠ []) (htexts : (Value.map as).texts = (Value.map bs).texts) :
    let walk tree := (fields scope [(name, rule)] tree).value.outcome
    ((∃ notes, walk one = .ok notes) ↔ t.unsupported? = none ∧ t.values ≠ [] ∧
        ((Relation.ofToken t).HoldsOf (Value.map as).texts {s | s ∈ t.values} ↔ t.test = .enum)) ∧
      ((∃ notes, walk one = .ok notes) ↔ ∃ notes, walk other = .ok notes) ∧
      ∀ f, walk one = .error f ↔ walk other = .error f := by
  intro walk
  have htakes : t.test.takesWholeArray = true := Test.takesWholeArray_iff.2 (.inl ht)
  have hmade := FieldRule.eq_compiled hrule
  have hignore : rule.ignore = false := by
    rw [hmade]
    rcases Test.isMembership_iff.1 ht with ht | ht <;> simp [FieldRule.compiled, ht]
  have hchecks : rule.checks = [t] := by
    simp [hmade, FieldRule.compiled, Test.not_isDeferred_of_takesWholeArray htakes]
  have hwhole : rule.wholeArray = true := by simp [hmade, FieldRule.compiled, ht, hm]
  have hjudges : ∀ {es : List (String × Value)}, es ≠ [] → rule.judgesWhole (.map es) = true :=
    fun hes => (judgesWhole_map hes).trans hwhole
  have hwalk : ∀ {tree es : List (String × Value)}, Keyed.get? tree name = some (.map es) →
      walk tree = (field scope rule [name] (.map es)).value.outcome :=
    fun htree => congrArg (·.value.outcome) (fields_singleton hignore htree)
  have hends : ∀ {tree es : List (String × Value)}, Keyed.get? tree name = some (.map es) → es ≠ [] →
      ((∃ notes, walk tree = .ok notes) ↔ t.unsupported? = none ∧ t.values ≠ [] ∧
        ((Relation.ofToken t).HoldsOf (Value.map es).texts {s | s ∈ t.values} ↔ t.test = .enum)) := by
    intro tree es htree hes
    rw [hwalk htree, field_of_one_ok_iff (hjudges hes) hchecks htakes, acceptsWhole_texts_iff ht hm]
  refine ⟨hends hone has, by rw [hends hone has, hends hother hbs, htexts], fun f => ?_⟩
  rw [hwalk hone, hwalk hother, outcome_field_of_one (hjudges has) hchecks htakes,
    outcome_field_of_one (hjudges hbs) hchecks htakes, evaluate_standIn_congr scope ht hm htexts]
  cases (Check.evaluate (stashing scope (.map bs)) t (.text arrayMark)).outcome.value with
  | ok outcome => simp
  | error fault => simp

theorem verdict_of_texts_roles :
    let scope : Scope := { collaborators := .mute }
    let t : Token := { test := .nenum, modifiers := [.any], values := ["admin"] }
    let rule : FieldRule := { checks := [t], wholeArray := true }
    let nested := [("0", Value.map [("x", .text "admin"), ("y", .map [])]), ("1", .text "7")]
    let flat := [("a", Value.int 7), ("b", .text "admin"), ("c", .text "7")]
    let denied : Failure := { fault := .listed ["admin"], field := some "roles" }
    FieldRule.ofTokens [t] = .ok rule ∧ t.modifiers ≠ [] ∧ (Value.map nested).texts = (Value.map flat).texts ∧
      (fields scope [("roles", rule)] [("roles", .map nested)]).value.outcome = .error denied ∧
      (fields scope [("roles", rule)] [("roles", .map flat)]).value.outcome = .error denied := by
  intro scope t rule nested flat denied
  have hrule : FieldRule.ofTokens [t] = .ok rule := rfl
  have hm : t.modifiers ≠ [] := List.cons_ne_nil _ _
  have htexts : (Value.map nested).texts = (Value.map flat).texts := by
    have hnested : scalars (.map nested) = ["admin", "7"] := by decide
    have hflat : scalars (.map flat) = ["7", "admin", "7"] := by decide
    ext s
    simp [Value.texts_eq, hnested, hflat, or_comm]
  have hdenied : (fields scope [("roles", rule)] [("roles", .map nested)]).value.outcome = .error denied := by decide
  have hnested : Keyed.get? [("roles", Value.map nested)] "roles" = some (.map nested) := rfl
  have hflat : Keyed.get? [("roles", Value.map flat)] "roles" = some (.map flat) := rfl
  obtain ⟨-, -, hsame⟩ := verdict_of_texts scope rfl hm hrule hnested hflat (List.cons_ne_nil _ _) (List.cons_ne_nil _ _)
    htexts
  exact ⟨hrule, hm, htexts, hdenied, (hsame denied).1 hdenied⟩

end Walk

end FieldRules
