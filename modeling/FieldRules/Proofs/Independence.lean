import FieldRules.Proofs.Evaluations
import FieldRules.Proofs.Planning
/-!
# Fields are walked apart

What happens to a field in a walk is what happens to it in a walk of its own. `Walk.lone` is the walk of one field
by its rule, with nothing else in the tree; `Walk.ending_fields` says that a walk is the lone walks one after another,
up to the first that fails, and `Walk.walk_apart` what follows for the outcome, the calls, the tree and the plans.
-/

namespace FieldRules

/-- The entry of a key, if there is one. -/
def Keyed.only {α : Type} (es : List (String × α)) (k : String) : List (String × α) :=
  (get? es k).toList.map fun v => (k, v)

theorem Keyed.get?_only {α : Type} (es : List (String × α)) (k : String) : get? (only es k) k = get? es k := by
  rw [only, get?_toList_map, Option.map_id']

namespace Walk

/-- The walk of one field by its rule, alone in the tree. -/
def lone (scope : Scope) (tree : List (String × Value)) (r : String × FieldRule) :
    Traced (Walked (List (String × Value))) :=
  fields scope [r] (Keyed.only tree r.1)

/-- The lone walk as a step of a row. -/
def loneStep (scope : Scope) (tree : List (String × Value)) (r : String × FieldRule) : Traced Ending :=
  ending (lone scope tree r)

section
variable {scope : Scope} {set : RuleSet} {tree : List (String × Value)} {name : String} {rule : FieldRule}

/-! ## One field -/

theorem fields_cons_of_skips (h : Skips tree (name, rule)) :
    fields scope ((name, rule) :: set) tree = fields scope set tree := by
  rw [fields]
  split
  · rfl
  · rename_i v hv
    have hi : rule.ignore = true := h.resolve_left (by simp [hv])
    rw [if_pos hi]

theorem lone_of_skips (h : Skips tree (name, rule)) :
    lone scope tree (name, rule) = .silent ⟨Keyed.only tree name, .ok []⟩ := by
  have hskips : Skips (Keyed.only tree name) (name, rule) := by rwa [Skips, Keyed.get?_only]
  rw [lone, fields_cons_of_skips hskips]
  rfl

section
variable {v : Value} (hi : rule.ignore = false) (hv : Keyed.get? tree name = some v)
include hi hv

theorem fields_cons_of_visits : fields scope ((name, rule) :: set) tree = (do
    let w ← field scope rule [name] v
    match w.outcome with
    | .error f => return ⟨Keyed.put tree name w.value, .error f⟩
    | .ok notes => return Walked.after notes (← fields scope set (Keyed.put tree name w.value))) := by
  rw [fields]
  split
  · rename_i h
    rw [hv] at h
    cases h
  · rename_i h
    obtain rfl := Option.some.inj (hv.symm.trans h)
    exact (if_neg (by simp [hi])).trans rfl

theorem lone_of_visits (scope : Scope) : lone scope tree (name, rule) =
    let w := field scope rule [name] v
    ⟨w.calls, [(name, w.value.value)], w.value.outcome⟩ := by
  rw [lone, fields_singleton hi ((Keyed.get?_only tree name).trans hv)]
  simp [Keyed.only, hv, Keyed.put]

end

/-- The walk of one field depends on that field only. -/
theorem lone_congr {tree' : List (String × Value)} {r : String × FieldRule}
    (h : Keyed.get? tree r.1 = Keyed.get? tree' r.1) : lone scope tree r = lone scope tree' r := by
  rw [lone, lone, Keyed.only, Keyed.only, h]

/-! ## All fields -/

/-- The fields after one are walked as they would be without it. -/
theorem lone_put {w : Value} {r : String × FieldRule} (hset : name ∉ Keyed.keys set) (hr : r ∈ set) :
    lone scope (Keyed.put tree name w) r = lone scope tree r := by
  refine lone_congr ?_
  rw [Keyed.get?_put, if_neg]
  rintro rfl
  exact hset (Keyed.mem_keys.2 ⟨r.2, hr⟩)

/-- A walk is the lone walks of its fields one after another, up to the first that fails. -/
theorem ending_fields (hset : Keyed.Distinct set) :
    ending (fields scope set tree) = sweep (loneStep scope tree) set := by
  induction set generalizing tree with
  | nil => rfl
  | cons r set ih =>
    obtain ⟨name, rule⟩ := r
    obtain ⟨hname, hset⟩ := List.nodup_cons.1 hset
    by_cases hs : Skips tree (name, rule)
    · have hlone : loneStep scope tree (name, rule) = .silent (.ok []) := by
        rw [loneStep, lone_of_skips hs]
        rfl
      rw [fields_cons_of_skips hs, sweep_cons_of_ok (congrArg Traced.value hlone), ← ih hset, hlone]
      cases h : (fields scope set tree).value.outcome <;> simp [ending, Traced.silent, Except.map, h]
    · obtain ⟨v, hv, hi⟩ := exists_of_not_skips hs
      rw [fields_cons_of_visits hi hv]
      have hlone : loneStep scope tree (name, rule) = ending (field scope rule [name] v) := by
        rw [loneStep, lone_of_visits hi hv scope]
        rfl
      cases hw : (field scope rule [name] v).value.outcome with
      | error f =>
        have herror : (loneStep scope tree (name, rule)).value = .error f := by rw [hlone]; exact hw
        rw [sweep_cons_of_error herror, hlone]
        simp [ending, hw]
      | ok ns =>
        have hrest : sweep (loneStep scope tree) set =
            ending (fields scope set (Keyed.put tree name (field scope rule [name] v).value.value)) := by
          rw [ih hset]
          exact sweep_congr fun r hr => congrArg ending (lone_put hname hr).symm
        have hok : (loneStep scope tree (name, rule)).value = .ok ns := by rw [hlone]; exact hw
        rw [sweep_cons_of_ok hok, hlone, hrest]
        simp [ending, hw, Walked.after]

/-- A walk ends well just if the lone walks of its fields do. -/
theorem fields_ok_iff (hset : Keyed.Distinct set) : (∃ notes, (fields scope set tree).value.outcome = .ok notes) ↔
    ∀ r ∈ set, ∃ notes, (lone scope tree r).value.outcome = .ok notes := by
  calc (∃ notes, (fields scope set tree).value.outcome = .ok notes)
      ↔ ∃ notes, (sweep (loneStep scope tree) set).value = .ok notes := by
        rw [← ending_fields hset]
        rfl
    _ ↔ ∀ r ∈ set, Passes (loneStep scope tree) r := sweep_ok_iff
    _ ↔ ∀ r ∈ set, ∃ notes, (lone scope tree r).value.outcome = .ok notes := Iff.rfl

/-- In a walk that ends well, every field with a rule comes to what it comes to alone. -/
theorem get?_fields (hset : Keyed.Distinct set) {walked : List (String × Value)} {notes : List Note}
    (h : (fields scope set tree).value = ⟨walked, .ok notes⟩) :
    ∀ r ∈ set, Keyed.get? walked r.1 = Keyed.get? (lone scope tree r).value.value r.1 := by
  induction set generalizing tree notes with
  | nil => exact List.forall_mem_nil _
  | cons r set ih =>
    obtain ⟨name, rule⟩ := r
    obtain ⟨hname, hset⟩ := List.nodup_cons.1 hset
    have hrest : ∀ rule', (name, rule') ∈ set → rule'.ignore = true := fun rule' hm =>
      absurd (Keyed.mem_keys.2 ⟨rule', hm⟩) hname
    rcases fields_cons_ok h with ⟨hs, h⟩ | ⟨v, w, ns, ms, hv, hi, hw, h, -⟩
    · refine List.forall_mem_cons.2 ⟨?_, ih hset h⟩
      rw [lone_of_skips hs, get?_of_fields hrest h]
      exact (Keyed.get?_only tree name).symm
    · refine List.forall_mem_cons.2 ⟨?_, fun r hr => ?_⟩
      · rw [lone_of_visits hi hv scope, get?_of_fields hrest h, Keyed.get?_put]
        simp [hw, Keyed.get?]
      · rw [ih hset h r hr, lone_put hname hr]

/-- The plan of the lone walk of a field, if it ends well. -/
def lonePlan (scope : Scope) (tree : List (String × Value)) (r : String × FieldRule) : List (String × Plan) :=
  plan (Ending.notes (lone scope tree r).value.outcome)

theorem note_of_lone {r : String × FieldRule} {note : Note}
    (h : note ∈ Ending.notes (lone scope tree r).value.outcome) : [r.1] <+: note.path := by
  cases hok : (lone scope tree r).value.outcome with
  | error f =>
    rw [hok] at h
    cases h
  | ok notes =>
    rw [hok] at h
    have hlone : (lone scope tree r).value = ⟨(lone scope tree r).value.value, .ok notes⟩ := by rw [← hok]
    obtain ⟨name, rule, hm, -, hpath, -⟩ := note_of_fields hlone note h
    obtain rfl := List.mem_singleton.1 hm
    exact hpath

theorem keys_lonePlan {r : String × FieldRule} : ∀ k ∈ Keyed.keys (lonePlan scope tree r), k = r.1 := by
  intro k hk
  obtain ⟨p, hp⟩ := Keyed.mem_keys.1 hk
  obtain ⟨⟨note, hn, hpath⟩, -⟩ := noted_plan _ k p hp
  exact first_unique hpath (note_of_lone hn)

/-- The plan of a walk is the plans of the lone walks, one after another. -/
theorem plan_fields (hset : Keyed.Distinct set) {notes : List Note}
    (h : (fields scope set tree).value.outcome = .ok notes) : plan notes = set.flatMap (lonePlan scope tree) := by
  have hsweep : (sweep (loneStep scope tree) set).value = .ok notes := by
    rw [← ending_fields hset]
    exact h
  rw [sweep_eq_of_ok (sweep_ok_iff.1 ⟨notes, hsweep⟩)] at hsweep
  obtain rfl := Except.ok.inj hsweep
  exact plan_flatMap hset fun r _ n hn => note_of_lone hn

theorem get?_plan_of_mem (hset : Keyed.Distinct set) {notes : List Note}
    (h : (fields scope set tree).value.outcome = .ok notes) {r : String × FieldRule} (hr : r ∈ set) :
    Keyed.get? (plan notes) r.1 = Keyed.get? (lonePlan scope tree r) r.1 := by
  rw [plan_fields hset h]
  exact Keyed.get?_flatMap hset (fun _ _ => keys_lonePlan) hr

theorem get?_plan_of_not_mem (hset : Keyed.Distinct set) {notes : List Note}
    (h : (fields scope set tree).value.outcome = .ok notes) {k : String} (hk : k ∉ Keyed.keys set) :
    Keyed.get? (plan notes) k = none := by
  refine Keyed.get?_of_not_mem fun hm => hk ?_
  rw [plan_fields hset h] at hm
  obtain ⟨p, hp⟩ := Keyed.mem_keys.1 hm
  obtain ⟨r, hr, hp⟩ := List.mem_flatMap.1 hp
  rw [keys_lonePlan k (Keyed.mem_keys.2 ⟨p, hp⟩)]
  exact Keyed.mem_keys.2 ⟨r.2, hr⟩

/-! ## The order of the rules -/

theorem distinct_of_perm {set' : RuleSet} (h : set'.Perm set) (hset : Keyed.Distinct set) : Keyed.Distinct set' :=
  (h.map Prod.fst).nodup_iff.2 hset

/-- Whether a walk ends well does not depend on the order of the rules. -/
theorem ok_iff_of_perm {set' : RuleSet} (hset : Keyed.Distinct set) (h : set'.Perm set) :
    (∃ notes, (fields scope set' tree).value.outcome = .ok notes) ↔
      ∃ notes, (fields scope set tree).value.outcome = .ok notes := by
  rw [fields_ok_iff (distinct_of_perm h hset), fields_ok_iff hset]
  exact ⟨fun hr r hm => hr r (h.mem_iff.2 hm), fun hr r hm => hr r (h.mem_iff.1 hm)⟩

/-- Neither does the tree that it leaves. -/
theorem tree_eq_of_perm {set' : RuleSet} (hset : Keyed.Distinct set) (htree : Keyed.Distinct tree)
    (h : set'.Perm set) {walked walked' : List (String × Value)} {notes notes' : List Note}
    (hw : (fields scope set tree).value = ⟨walked, .ok notes⟩)
    (hw' : (fields scope set' tree).value = ⟨walked', .ok notes'⟩) : walked' = walked := by
  have hkeys := keys_of_fields hw
  have hkeys' := keys_of_fields hw'
  have hwalked' : Keyed.Distinct walked' := by rwa [Keyed.Distinct, hkeys']
  refine Keyed.ext_get? hwalked' (hkeys'.trans hkeys.symm) fun k _ => ?_
  by_cases hk : k ∈ Keyed.keys set
  · -- The field has a rule, so both walks leave what its lone walk leaves.
    obtain ⟨rule, hm⟩ := Keyed.mem_keys.1 hk
    rw [get?_fields (distinct_of_perm h hset) hw' _ (h.mem_iff.2 hm), get?_fields hset hw _ hm]
  · have hskip : ∀ rule, (k, rule) ∈ set → rule.ignore = true := fun rule hm =>
      absurd (Keyed.mem_keys.2 ⟨rule, hm⟩) hk
    rw [get?_of_fields hskip hw, get?_of_fields (fun rule hm => hskip rule (h.mem_iff.1 hm)) hw']

/-! ## The walk as a whole -/

/-- A walk ends well just if the lone walk of every field with a rule does. In that case it has made the calls of the
lone walks, one after another; every field with a rule is what its lone walk leaves, with the plan of its lone walk,
and every other field stays and has no plan. A walk that fails does so by the failure of the first lone walk that
fails in the order of the rules, and it has made the calls of the lone walks up to that one. So neither the end of
a walk that ends well nor its tree depends on the order of the rules. -/
theorem walk_apart (scope : Scope) (hset : Keyed.Distinct set) (htree : Keyed.Distinct tree) :
    let walk := fields scope set tree
    ((∃ notes, walk.value.outcome = .ok notes) ↔
      ∀ r ∈ set, ∃ notes, (lone scope tree r).value.outcome = .ok notes) ∧
    (∀ notes, walk.value.outcome = .ok notes →
      walk.calls = (set.flatMap fun r => (lone scope tree r).calls) ∧
      Keyed.keys walk.value.value = Keyed.keys tree ∧
      (∀ r ∈ set, Keyed.get? walk.value.value r.1 = Keyed.get? (lone scope tree r).value.value r.1 ∧
        Keyed.get? (plan notes) r.1 = Keyed.get? (lonePlan scope tree r) r.1) ∧
      ∀ k, k ∉ Keyed.keys set → Keyed.get? walk.value.value k = Keyed.get? tree k ∧
        Keyed.get? (plan notes) k = none) ∧
    (∀ f, walk.value.outcome = .error f → ∃ before r after, set = before ++ r :: after ∧
      (∀ b ∈ before, ∃ notes, (lone scope tree b).value.outcome = .ok notes) ∧
      (lone scope tree r).value.outcome = .error f ∧
      walk.calls = (before ++ [r]).flatMap fun b => (lone scope tree b).calls) ∧
    ∀ set' : RuleSet, set'.Perm set →
      ((∃ notes, (fields scope set' tree).value.outcome = .ok notes) ↔ ∃ notes, walk.value.outcome = .ok notes) ∧
      ∀ notes, walk.value.outcome = .ok notes → (fields scope set' tree).value.value = walk.value.value := by
  intro walk
  have hending : ending walk = sweep (loneStep scope tree) set := ending_fields hset
  have hiff : (∃ notes, walk.value.outcome = .ok notes) ↔
      ∀ r ∈ set, ∃ notes, (lone scope tree r).value.outcome = .ok notes := fields_ok_iff hset
  refine ⟨hiff, fun notes h => ?_, fun f h => ?_, fun set' hperm => ⟨ok_iff_of_perm hset hperm, fun notes h => ?_⟩⟩
  · have hwalk : walk.value = ⟨walk.value.value, .ok notes⟩ := by rw [← h]
    have hcalls : walk.calls = set.flatMap fun r => (lone scope tree r).calls :=
      congrArg Traced.calls (hending.trans (sweep_eq_of_ok (hiff.1 ⟨notes, h⟩)))
    refine ⟨hcalls, keys_of_fields hwalk, fun r hr => ⟨get?_fields hset hwalk r hr, get?_plan_of_mem hset h hr⟩,
      fun k hk => ⟨?_, get?_plan_of_not_mem hset h hk⟩⟩
    exact get?_of_fields (fun rule hm => absurd (Keyed.mem_keys.2 ⟨rule, hm⟩) hk) hwalk
  · have hsweep : (sweep (loneStep scope tree) set).value = .error f := by
      rw [← hending]
      exact h
    obtain ⟨before, r, after, rfl, hbefore, hr⟩ := exists_first_of_sweep_error hsweep
    exact ⟨before, r, after, rfl, hbefore, hr, congrArg Traced.calls (hending.trans (sweep_eq_of_error hbefore hr))⟩
  · obtain ⟨notes', h'⟩ := (ok_iff_of_perm hset hperm).2 ⟨notes, h⟩
    exact tree_eq_of_perm hset htree hperm (by rw [← h]) (by rw [← h'])

theorem walk_apart_form :
    let scope : Scope := { collaborators := .mute }
    let set : RuleSet := [("name", .compiledText "alpha"), ("age", .compiledText "number:only")]
    let tree := [("age", Value.text "age 7"), ("name", .text "Ann")]
    Keyed.Distinct set ∧ Keyed.Distinct tree ∧
      (∃ notes, (fields scope set tree).value.outcome = .ok notes) ∧
      (fields scope set.reverse tree).value.value = [("age", .text "7"), ("name", .text "Ann")] := by
  intro scope set tree
  let made : RuleSet := [("name", { checks := [{ test := .alpha }] }),
    ("age", { checks := [{ test := .number, modifiers := [.only] }] })]
  have hmade : set = made := by decide +kernel
  rw [hmade]
  have hset : (Keyed.keys made).Nodup := by decide
  have htree : (Keyed.keys tree).Nodup := by decide
  have hok : (fields scope made tree).value.outcome = .ok [⟨["name"], []⟩, ⟨["age"], []⟩] := by decide
  obtain ⟨-, -, -, hperm⟩ := walk_apart scope hset htree
  have hreverse := (hperm made.reverse (List.reverse_perm made)).2 _ hok
  refine ⟨hset, htree, ⟨_, hok⟩, hreverse.trans ?_⟩
  decide

end

end Walk

end FieldRules
