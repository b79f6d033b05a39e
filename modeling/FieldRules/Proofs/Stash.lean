import FieldRules.Proofs.Independence
import FieldRules.Proofs.Membership
/-!
# The array in the stash

`Walk.fields` hands the array that is judged as one value down in the scope of the checks. `InContext.fields` is the
same walk with a context: one cell that holds the array from the time when its stand-in is judged to the time when the
array is done, and a log of all evaluations with what the cell held. The two walks do the same, and the cell is empty
again when the walk ends, well or not (`InContext.follows_fields`). The log tells that a test which looks at the cell
finds there the array that its subject stands for, and nothing where its subject is a leaf (`InContext.stash_kept`).
-/

namespace FieldRules

/-- What a check is put to. -/
inductive Site where
  /-- A leaf of the tree, or the unset leaf that stands in for an empty map. -/
  | leaf
  /-- The stand-in of an array with these entries. -/
  | standIn (entries : List (String × Value))

/-- An evaluation that was made. -/
structure Judged extends Evaluation where
  site : Site

/-- What a walk keeps on its way. -/
structure Context where
  /-- The texts of the array that is being judged as one value. -/
  stash : Option (List String)
  /-- The evaluations up to now, in order. -/
  log : List Judged

/-- A part of a walk that finds a context and leaves one. -/
abbrev InContext (α : Type) : Type := StateT Context Traced α

/-- Where the subject is the stand-in of an array, the stash holds that array. Where it is a leaf, and the test is one
that would look at the stash, the stash is empty. -/
structure Judged.Kept (j : Judged) : Prop where
  standIn : ∀ entries, j.site = .standIn entries →
    j.subject = .text arrayMark ∧ j.scope.stash = some (Walk.entryScalars entries)
  leaf : j.site = .leaf → j.token.test.takesWholeArray = true → j.scope.stash = none

namespace InContext

/-! ## The walk with a context -/

/-- Makes an evaluation with the stash as it is. -/
def evaluate (scope : Scope) (site : Site) (t : Token) (s : Subject) : InContext (Except Fault Outcome) := fun c =>
  let e : Evaluation := ⟨{ scope with stash := c.stash }, t, s⟩
  ⟨e.run.calls, e.run.value, { c with log := c.log ++ [⟨e, site⟩] }⟩

/-- Fills the stash for a part of the walk, and empties it when that part has ended. -/
def stashing {α : Type} (texts : List String) (part : InContext α) : InContext α := do
  modify fun c => { c with stash := some texts }
  let a ← part
  modify fun c => { c with stash := none }
  return a

def checkLeaf (scope : Scope) (site : Site) (path : List String) :
    List Token → Value → InContext (Value × Option Failure)
  | [], v => return (v, none)
  | t :: ts, v => do
    match ← evaluate scope site t (Subject.ofValue v) with
    | .ok outcome => checkLeaf scope site path ts (outcome.update v)
    | .error fault => return (v, some { fault, field := some (Walk.pathText path) })

def leaf (scope : Scope) (checks : List Token) (acts : List Deferred) (path : List String) (v : Value) :
    InContext (Walked Value) := do
  let (v, failure) ← checkLeaf scope .leaf path checks v
  return ⟨v, match failure with
    | some f => .error f
    | none => .ok [⟨path, acts⟩]⟩

mutual

def visit (probing : Bool) (leaf : List String → Value → InContext (Walked Value)) (path : List String) :
    Value → InContext (Walked Value)
  | .map entries =>
    if entries.isEmpty then
      if probing then do return { ← leaf path Value.empty with value := .map entries }
      else return ⟨.map entries, .ok []⟩
    else do
      let w ← visitEntries probing leaf path entries
      return ⟨.map w.value, w.outcome⟩
  | v => leaf path v
termination_by structural v => v

def visitEntries (probing : Bool) (leaf : List String → Value → InContext (Walked Value)) (path : List String) :
    List (String × Value) → InContext (Walked (List (String × Value)))
  | [] => return ⟨[], .ok []⟩
  | (key, v) :: rest => do
    let w ← visit probing leaf (path ++ [key]) v
    match w.outcome with
    | .error f => return ⟨(key, w.value) :: rest, .error f⟩
    | .ok notes =>
      let r ← visitEntries probing leaf path rest
      return Walked.after notes ⟨(key, w.value) :: r.value, r.outcome⟩
termination_by structural es => es

end

def wholeArray (scope : Scope) (rule : FieldRule) (path : List String) (entries : List (String × Value)) :
    InContext (Walked Value) :=
  stashing (Walk.entryScalars entries) do
    let (_, failure) ← checkLeaf scope (.standIn entries) path rule.wholeChecks (.text arrayMark)
    match failure with
    | some f => return ⟨.map entries, .error f⟩
    | none => visit false (leaf scope rule.entryChecks rule.acts) path (.map entries)

def field (scope : Scope) (rule : FieldRule) (path : List String) (v : Value) : InContext (Walked Value) :=
  let plain := visit true (leaf scope rule.checks rule.acts) path v
  match v with
  | .map entries =>
    if rule.wholeArray && !entries.isEmpty then wholeArray scope rule path entries else plain
  | _ => plain

def fields (scope : Scope) : RuleSet → List (String × Value) → InContext (Walked (List (String × Value)))
  | [], tree => return ⟨tree, .ok []⟩
  | (name, rule) :: rules, tree =>
    match Keyed.get? tree name with
    | none => fields scope rules tree
    | some v =>
      if rule.ignore then fields scope rules tree else do
        let w ← field scope rule [name] v
        let tree := Keyed.put tree name w.value
        match w.outcome with
        | .error f => return ⟨tree, .error f⟩
        | .ok notes => return Walked.after notes (← fields scope rules tree)

/-! ## Two walks that do the same -/

/-- With this stash the part in a context does what the plain one does. It leaves the stash as it was, and the
evaluations that it makes account for all calls and have the property. -/
def Follows {α : Type} (stash : Option (List String)) (P : Judged → Prop) (m : InContext α) (t : Traced α) : Prop :=
  ∀ log, ∃ made, m ⟨stash, log⟩ = ⟨t.calls, t.value, ⟨stash, log ++ made⟩⟩ ∧
    (t.calls = made.flatMap fun j => j.run.calls) ∧ ∀ j ∈ made, P j

section
variable {α β : Type} {stash : Option (List String)} {P : Judged → Prop} {m : InContext α} {t : Traced α}

theorem follows_pure (a : α) : Follows stash P (pure a) (.silent a) := by
  intro log
  exact ⟨[], by rw [List.append_nil]; rfl, rfl, List.forall_mem_nil _⟩

theorem Follows.bind {f : α → InContext β} {g : α → Traced β} (hm : Follows stash P m t)
    (hf : Follows stash P (f t.value) (g t.value)) : Follows stash P (m >>= f) (t >>= g) := by
  intro log
  obtain ⟨made, hmade, hcalls, hP⟩ := hm log
  obtain ⟨more, hmore, hcalls', hQ⟩ := hf (log ++ made)
  refine ⟨made ++ more, ?_, ?_, List.forall_mem_append.2 ⟨hP, hQ⟩⟩
  · calc (m >>= f) ⟨stash, log⟩
        = (m ⟨stash, log⟩ >>= fun p => f p.1 p.2) := rfl
      _ = ⟨t.calls ++ (g t.value).calls, (g t.value).value, ⟨stash, log ++ (made ++ more)⟩⟩ := by
          rw [hmade, ← List.append_assoc]
          exact congrArg (fun u : Traced (β × Context) => (⟨t.calls ++ u.calls, u.value⟩ : Traced (β × Context))) hmore
  · rw [Traced.calls_bind, List.flatMap_append, ← hcalls, ← hcalls']

theorem follows_evaluate (scope : Scope) {site : Site} {token : Token} {s : Subject}
    (hP : P ⟨⟨{ scope with stash }, token, s⟩, site⟩) :
    Follows stash P (evaluate scope site token s) (Evaluation.mk { scope with stash } token s).run := by
  intro log
  exact ⟨[_], rfl, by simp, List.forall_mem_singleton.2 hP⟩

/-- A part that is done with the stash filled starts and ends with the stash empty. -/
theorem Follows.stashing {texts : List String} (hm : Follows (some texts) P m t) :
    Follows none P (stashing texts m) t := by
  intro log
  obtain ⟨made, hmade, hcalls⟩ := hm log
  refine ⟨made, ?_, hcalls⟩
  -- Filling and emptying the stash make no calls, so what remains are those of the part.
  have hrun : InContext.stashing texts m ⟨none, log⟩ =
      let ended := m ⟨some texts, log⟩
      ⟨[] ++ (ended.calls ++ ([] ++ [])), ended.value.1, { ended.value.2 with stash := none }⟩ := rfl
  rw [hrun, hmade]
  simp

variable {scope : Scope}

theorem follows_checkLeaf {site : Site} (path : List String) {ts : List Token} {v : Value}
    (hP : ∀ e ∈ Walk.evaluations { scope with stash } ts v, P ⟨e, site⟩) :
    Follows stash P (checkLeaf scope site path ts v) (Walk.checkLeaf { scope with stash } path ts v) := by
  induction ts generalizing v with
  | nil => exact follows_pure _
  | cons token ts ih =>
    rw [Walk.evaluations] at hP
    rw [checkLeaf, Walk.checkLeaf]
    let e : Evaluation := ⟨{ scope with stash }, token, .ofValue v⟩
    cases ho : e.run.value with
    | ok outcome =>
      simp only [e] at ho
      simp only [ho, List.forall_mem_cons] at hP
      refine (follows_evaluate scope hP.1).bind ?_
      rw [ho]
      exact ih hP.2
    | error fault =>
      simp only [e] at ho
      simp only [ho, List.forall_mem_singleton] at hP
      refine (follows_evaluate scope hP).bind ?_
      rw [ho]
      exact follows_pure _

theorem follows_leaf {checks : List Token} (acts : List Deferred) (path : List String) {v : Value}
    (hP : ∀ e ∈ Walk.evaluations { scope with stash } checks v, P ⟨e, .leaf⟩) :
    Follows stash P (leaf scope checks acts path v) (Walk.leaf { scope with stash } checks acts path v) :=
  (follows_checkLeaf path hP).bind (follows_pure _)

section
variable {probing : Bool} {leaf : List String → Value → InContext (Walked Value)}
  {plain : List String → Value → Traced (Walked Value)}

theorem follows_visitEntries {entries : List (String × Value)}
    (h : ∀ e ∈ entries, ∀ path, Follows stash P (visit probing leaf path e.2) (Walk.visit probing plain path e.2))
    (path : List String) :
    Follows stash P (visitEntries probing leaf path entries) (Walk.visitEntries probing plain path entries) := by
  induction entries with
  | nil => exact follows_pure _
  | cons e es ih =>
    obtain ⟨key, v⟩ := e
    obtain ⟨hv, hes⟩ := List.forall_mem_cons.1 h
    unfold visitEntries Walk.visitEntries
    refine (hv (path ++ [key])).bind ?_
    dsimp only
    cases (Walk.visit probing plain (path ++ [key]) v).value.outcome with
    | error f => exact follows_pure _
    | ok notes => exact (ih hes).bind (follows_pure _)

theorem follows_visit (hleaf : ∀ path v, Follows stash P (leaf path v) (plain path v)) (v : Value) :
    ∀ path, Follows stash P (visit probing leaf path v) (Walk.visit probing plain path v) := by
  induction v using Value.leafInduction with
  | leaf v hv =>
    intro path
    have hvisit : visit probing leaf path v = leaf path v := by cases v <;> first | rfl | cases hv
    rw [hvisit, Walk.visit_of_leaf hv]
    exact hleaf path v
  | map entries ih =>
    intro path
    unfold visit Walk.visit
    split
    · split
      · exact (hleaf path Value.empty).bind (follows_pure _)
      · exact follows_pure _
    · exact (follows_visitEntries ih path).bind (follows_pure _)

end

end

/-! ## What the stash holds -/

section
variable {scope : Scope} {e : Evaluation}

theorem kept_of_none (h : e.scope.stash = none) : Judged.Kept ⟨e, .leaf⟩ := by
  constructor
  · intro entries hsite
    cases hsite
  · exact fun _ _ => h

/-- While an array is judged as one value, its leaves are put to no test that would look at it. -/
theorem kept_of_entryChecks {rule : FieldRule} {v : Value} (h : e ∈ Walk.evaluations scope rule.entryChecks v) :
    Judged.Kept ⟨e, .leaf⟩ := by
  constructor
  · intro entries hsite
    cases hsite
  · intro _ htakes
    -- The checks of an entry are those that do not take the whole array.
    have hother := (List.mem_filter.1 (Walk.mem_evaluations h).2).2
    simp [htakes] at hother

theorem kept_of_wholeChecks {rule : FieldRule} {entries : List (String × Value)}
    (h : e ∈ Walk.evaluations { scope with stash := some (Walk.entryScalars entries) } rule.wholeChecks
      (.text arrayMark)) : Judged.Kept ⟨e, .standIn entries⟩ := by
  have htakes : ∀ t ∈ rule.wholeChecks, t.test.takesWholeArray = true := fun t ht => (List.mem_filter.1 ht).2
  constructor
  · intro others hsite
    cases hsite
    exact ⟨Walk.subject_of_standIn htakes h, by rw [(Walk.mem_evaluations h).1]⟩
  · intro hsite
    cases hsite

theorem follows_wholeArray (rule : FieldRule) (path : List String) (entries : List (String × Value)) :
    Follows none Judged.Kept (wholeArray scope rule path entries)
      (Walk.wholeArray { scope with stash := none } rule path entries) := by
  let stashed : Scope := { scope with stash := some (Walk.entryScalars entries) }
  unfold wholeArray Walk.wholeArray
  refine Follows.stashing ((follows_checkLeaf path fun e he => kept_of_wholeChecks he).bind ?_)
  dsimp only
  cases (Walk.checkLeaf stashed path rule.wholeChecks (.text arrayMark)).value.2 with
  | some f => exact follows_pure _
  | none => exact follows_visit (fun path v => follows_leaf _ path fun e he => kept_of_entryChecks he) _ path

theorem follows_field (rule : FieldRule) (path : List String) (v : Value) :
    Follows none Judged.Kept (field scope rule path v) (Walk.field { scope with stash := none } rule path v) := by
  have hplain : Follows none Judged.Kept (visit true (leaf scope rule.checks rule.acts) path v)
      (Walk.visit true (Walk.leaf { scope with stash := none } rule.checks rule.acts) path v) := by
    refine follows_visit (fun path v => follows_leaf _ path fun e he => kept_of_none ?_) v path
    rw [(Walk.mem_evaluations he).1]
  unfold field Walk.field
  cases v with
  | map entries =>
    dsimp only
    cases rule.wholeArray && !entries.isEmpty with
    | true => exact follows_wholeArray rule path entries
    | false => exact hplain
  | _ => exact hplain

/-- The walk with a context does what the plain walk does, and its stash is empty at the end as it was at the start. -/
theorem follows_fields (scope : Scope) (set : RuleSet) (tree : List (String × Value)) :
    Follows none Judged.Kept (fields scope set tree) (Walk.fields { scope with stash := none } set tree) := by
  induction set generalizing tree with
  | nil => exact follows_pure _
  | cons r set ih =>
    obtain ⟨name, rule⟩ := r
    unfold fields Walk.fields
    cases Keyed.get? tree name with
    | none => exact ih tree
    | some v =>
      dsimp only
      cases rule.ignore with
      | true => exact ih tree
      | false =>
        refine (follows_field rule [name] v).bind ?_
        cases (Walk.field { scope with stash := none } rule [name] v).value.outcome with
        | error f => exact follows_pure _
        | ok notes => exact (ih _).bind (follows_pure _)

end

/-- A walk that finds the stash empty leaves it empty, whether it ends well or fails, and does what the plain walk does.
What the stash holds while the stand-in of an array is judged are the texts of that array. And a leaf is put to `enum`,
`nenum` and `required` only while the stash is empty. So `enum` and `nenum` judge the text of the leaf, whatever text
it is; and `required` refuses a leaf that is blank or brings no file, and besides the text that is reserved for
stand-ins. -/
theorem stash_kept (scope : Scope) (set : RuleSet) (tree : List (String × Value)) (log : List Judged) :
    let walk := Walk.fields { scope with stash := none } set tree
    ∃ made, fields scope set tree ⟨none, log⟩ = ⟨walk.calls, walk.value, ⟨none, log ++ made⟩⟩ ∧
      (walk.calls = made.flatMap fun j => j.run.calls) ∧ ∀ j ∈ made,
      (∀ entries, j.site = .standIn entries →
        j.subject = .text arrayMark ∧ j.scope.stash = some (Walk.entryScalars entries)) ∧
      (j.site = .leaf → j.token.test.takesWholeArray = true →
        j.scope.stash = none ∧
        (j.token.test.isMembership = true → (j.Accepts ↔ j.token.unsupported? = none ∧
          (j.subject.isUnset = true ∨ j.token.Admits j.subject.shown?.toList))) ∧
        (j.token.test = .required → (j.Accepts ↔ j.token.unsupported? = none ∧
          j.subject.isEmpty = false ∧ j.subject ≠ .text arrayMark))) := by
  intro walk
  obtain ⟨made, hrun, hcalls, hkept⟩ := follows_fields scope set tree log
  refine ⟨made, hrun, hcalls, fun j hj => ⟨(hkept j hj).standIn, fun hsite htakes => ?_⟩⟩
  have hstash := (hkept j hj).leaf hsite htakes
  refine ⟨hstash, fun hm => ?_, fun ht => ?_⟩
  · rw [Evaluation.accepts_membership_iff hm, hstash, Check.submitted_none]
  · rw [Evaluation.accepts_required_iff ht, hstash, Check.isPresent_none_iff]

/-- The walk fails at the second field. Its log holds an evaluation for the array and one for the leaf after it. -/
theorem stash_kept_tags :
    let scope : Scope := { collaborators := .mute }
    let set : RuleSet := [("tags", { checks := [{ test := .enum, values := ["red"] }], wholeArray := true }),
      ("name", { checks := [{ test := .required }] })]
    let ended := fields scope set [("tags", .map [("0", .text "red")]), ("name", .text "")] ⟨none, []⟩
    ended.value.2.stash = none ∧ ended.value.2.log.map (·.scope.stash) = [some ["red"], none] := by
  intro scope set ended
  refine ⟨?_, by decide⟩
  obtain ⟨made, hrun, -⟩ := stash_kept scope set [("tags", .map [("0", .text "red")]), ("name", .text "")] []
  simp only [ended, hrun]

end InContext

/-- The text that is reserved for stand-ins is not blank, and where no array is judged as one value it stands for
nothing but itself. Yet it is refused as if nothing had been submitted. -/
theorem Validation.submitted_mark_refused :
    isBlankText arrayMark = false ∧ (Subject.text arrayMark).isEmpty = false ∧ alone.scope.stash = none ∧
      tokenize "required" = [{ test := .required }] ∧ Test.required.takesWholeArray = true ∧
      (alone.validateValue arrayMark "required").value =
        .ok (.invalid { fault := .valueMissing, field := some "value" }) := by
  refine ⟨by decide, by decide, rfl, tokenize_required, rfl, ?_⟩
  decide +kernel

end FieldRules
