import FieldRules.Proofs.Planning
/-!
# Performing plans, leaf by leaf

`Deferred.settle` does acts to the leaves of a node one after another, with no plan, and `RuleSet.settle` does so
in every field by the acts of its rule. `Plan.perform_ofValue` and `Plan.performAll_of_serves` say that performing
plans comes to the same. `Deferred.settle_snd` and `Deferred.settle_fst` say what it comes to: the first failure among
the leaves, or else the tree with every leaf replaced.
-/

namespace FieldRules

/-! ## Acts on the leaves of a node -/

namespace Deferred

mutual

/-- Does acts to every leaf of a node in order; the first fault ends the work. -/
def settle (acts : List Deferred) (place : String) : Value → Value × Option Failure
  | .map entries =>
    let (entries, failure) := settleEntries acts place entries
    (.map entries, failure)
  | v =>
    let (v, fault) := actAll acts v
    (v, fault.map fun fault => { fault, field := some place })
termination_by structural v => v

def settleEntries (acts : List Deferred) (place : String) :
    List (String × Value) → List (String × Value) × Option Failure
  | [] => ([], none)
  | (key, v) :: rest =>
    let (v, failure) := settle acts (Plan.extendPath place key) v
    match failure with
    | some f => ((key, v) :: rest, some f)
    | none =>
      let (rest, failure) := settleEntries acts place rest
      ((key, v) :: rest, failure)
termination_by structural es => es

end

theorem act_map (d : Deferred) (entries : List (String × Value)) : d.act (.map entries) = .ok (.map entries) := by
  cases d <;> rfl

theorem act_upload (d : Deferred) (u : Upload) : d.act (.upload u) = .ok (.upload u) := by
  cases d <;> rfl

/-- No act changes what is left as it is by each. -/
theorem actAll_of_unchanged {v : Value} (h : ∀ d : Deferred, d.act v = .ok v) (acts : List Deferred) :
    actAll acts v = (v, none) := by
  induction acts with
  | nil => rfl
  | cons d ds ih =>
    rw [actAll, h d]
    exact ih

theorem settle_of_leaf {v : Value} (h : v.isMap = false) (acts : List Deferred) (place : String) :
    settle acts place v =
      ((actAll acts v).1, (actAll acts v).2.map fun fault => { fault, field := some place }) := by
  cases v <;> first | rfl | cases h

theorem settle_map (acts : List Deferred) (place : String) (entries : List (String × Value)) :
    settle acts place (.map entries) =
      (.map (settleEntries acts place entries).1, (settleEntries acts place entries).2) := rfl

theorem settleEntries_cons_of_fault {acts : List Deferred} {place key : String} {v w : Value} {f : Failure}
    (h : settle acts (Plan.extendPath place key) v = (w, some f)) (rest : List (String × Value)) :
    settleEntries acts place ((key, v) :: rest) = ((key, w) :: rest, some f) := by
  rw [settleEntries, h]

theorem settleEntries_cons_of_done {acts : List Deferred} {place key : String} {v w : Value}
    (h : settle acts (Plan.extendPath place key) v = (w, none)) (rest : List (String × Value)) :
    settleEntries acts place ((key, v) :: rest) =
      ((key, w) :: (settleEntries acts place rest).1, (settleEntries acts place rest).2) := by
  rw [settleEntries, h]

/-- Without acts a node stays. -/
theorem settle_nil (v : Value) : ∀ place, settle [] place v = (v, none) := by
  induction v using Value.leafInduction with
  | leaf v hv =>
    intro place
    rw [settle_of_leaf hv]
    rfl
  | map entries ih =>
    intro place
    have hentries : settleEntries [] place entries = (entries, none) := by
      induction entries with
      | nil => rfl
      | cons e es ihes =>
        obtain ⟨he, hes⟩ := List.forall_mem_cons.1 ih
        rw [settleEntries_cons_of_done (he _), ihes hes]
    rw [settle_map, hentries]

theorem settleEntries_cons_snd (acts : List Deferred) (place key : String) (v : Value)
    (rest : List (String × Value)) : (settleEntries acts place ((key, v) :: rest)).2 =
      (settle acts (Plan.extendPath place key) v).2.or (settleEntries acts place rest).2 := by
  rcases hs : settle acts (Plan.extendPath place key) v with ⟨w, _ | f⟩
  · rw [settleEntries_cons_of_done hs, Option.none_or]
  · rw [settleEntries_cons_of_fault hs, Option.some_or]

/-- The text of a path, as failures of deferred acts name it. -/
def placeText (path : List String) : String := path.foldl Plan.extendPath ""

/-- The failure of acts on the leaf in a place, if they fail. -/
def failureAt? (acts : List Deferred) (place : List String × Value) : Option Failure :=
  (actAll acts place.2).2.map fun fault => { fault, field := some (placeText place.1) }

/-- The acts fail on a node just if they fail on a leaf of it, and the first such leaf says how. -/
theorem settle_snd (acts : List Deferred) (v : Value) : ∀ path,
    (settle acts (placeText path) v).2 = (v.places false path).findSome? (failureAt? acts) := by
  induction v using Value.leafInduction with
  | leaf v hv =>
    intro path
    rw [settle_of_leaf hv, Value.places_of_leaf hv]
    simp [failureAt?]
  | map entries ih =>
    intro path
    rw [settle_map, Value.places]
    simp only [Bool.false_and, Bool.false_eq_true, if_false]
    induction entries with
    | nil => rfl
    | cons e es ihes =>
      obtain ⟨key, v⟩ := e
      obtain ⟨hv, hes⟩ := List.forall_mem_cons.1 ih
      have hplace : Plan.extendPath (placeText path) key = placeText (path ++ [key]) := by simp [placeText]
      rw [settleEntries_cons_snd, Value.entryPlaces, List.findSome?_append, ihes hes, hplace, hv]

/-- Where no act fails, every leaf is what the acts make of it. -/
theorem settle_fst {acts : List Deferred} {v : Value} : ∀ {place : String}, (settle acts place v).2 = none →
    (settle acts place v).1 = v.mapLeaves fun w => (actAll acts w).1 := by
  induction v using Value.leafInduction with
  | leaf v hv =>
    intro place _
    rw [settle_of_leaf hv, Value.mapLeaves_of_leaf hv]
  | map entries ih =>
    intro place h
    rw [settle_map] at h ⊢
    rw [Value.mapLeaves]
    refine congrArg Value.map ?_
    induction entries with
    | nil => rfl
    | cons e es ihes =>
      obtain ⟨key, v⟩ := e
      obtain ⟨hv, hes⟩ := List.forall_mem_cons.1 ih
      rw [settleEntries_cons_snd, Option.or_eq_none_iff] at h
      have hsettle : settle acts (Plan.extendPath place key) v =
          (v.mapLeaves fun w => (actAll acts w).1, none) := Prod.ext (hv h.1) h.1
      rw [settleEntries_cons_of_done hsettle, Value.mapEntryLeaves, ihes hes h.2]

end Deferred

/-! ## Performing the plan of a node -/

namespace Plan

section
variable {place key : String} {plan : Plan} {fields : List (String × Value)} {v w : Value}

theorem performAll_cons_of_fault {f : Failure} (hv : Keyed.get? fields key = some v)
    (hw : perform (extendPath place key) plan v = (w, some f)) (plans : List (String × Plan)) :
    performAll place ((key, plan) :: plans) fields = (Keyed.put fields key w, some f) := by
  rw [performAll]
  simp only [hv, hw]

theorem performAll_cons_of_done (hv : Keyed.get? fields key = some v)
    (hw : perform (extendPath place key) plan v = (w, none)) (plans : List (String × Plan)) :
    performAll place ((key, plan) :: plans) fields = performAll place plans (Keyed.put fields key w) := by
  rw [performAll]
  simp only [hv, hw]

end

/-- The plan of a node does the acts to its leaves; a node without a plan has no leaf on which they do a thing. -/
def Settles (acts : List Deferred) (plan? : Option Plan) (v : Value) : Prop :=
  ∀ place, (plan?.map fun plan => perform place plan v).getD (v, none) = Deferred.settle acts place v

/-- The plans of entries do the acts to their leaves, whatever entries stand before. -/
theorem performAll_ofEntries {probing : Bool} {acts : List Deferred} {rest : List (String × Value)}
    (h : ∀ e ∈ rest, Settles acts (ofValue probing acts e.2) e.2) (place : String) :
    ∀ done : List (String × Value), Keyed.Distinct (done ++ rest) →
      performAll place (ofEntries probing acts rest) (done ++ rest) =
        (done ++ (Deferred.settleEntries acts place rest).1, (Deferred.settleEntries acts place rest).2) := by
  induction rest with
  | nil => exact fun done _ => rfl
  | cons e rest ih =>
    obtain ⟨key, v⟩ := e
    obtain ⟨hv, hrest⟩ := List.forall_mem_cons.1 h
    intro done hd
    have hkey : key ∉ Keyed.keys done := Keyed.not_mem_of_distinct_append hd
    -- When this entry has become `w`, it stands before the rest like those that were done earlier.
    have hnext : ∀ w, performAll place (ofEntries probing acts rest) (done ++ (key, w) :: rest) =
        (done ++ (key, w) :: (Deferred.settleEntries acts place rest).1,
          (Deferred.settleEntries acts place rest).2) := by
      intro w
      have hd' : Keyed.Distinct (done ++ [(key, w)] ++ rest) := by
        simpa [Keyed.Distinct, Keyed.keys] using hd
      simpa using ih hrest (done ++ [(key, w)]) hd'
    have hv := hv (extendPath place key)
    rcases hs : Deferred.settle acts (extendPath place key) v with ⟨w, failure⟩
    rw [hs] at hv
    rw [ofEntries]
    cases hp : ofValue probing acts v with
    | none =>
      rw [hp] at hv
      obtain ⟨rfl, rfl⟩ := Prod.mk.inj hv
      rw [Deferred.settleEntries_cons_of_done hs]
      exact hnext v
    | some plan =>
      rw [hp] at hv
      have hget : Keyed.get? (done ++ (key, v) :: rest) key = some v := by
        rw [Keyed.get?_append, Keyed.get?_of_not_mem hkey, Option.none_or, Keyed.get?_cons, if_pos rfl]
      have hput : Keyed.put (done ++ (key, v) :: rest) key w = done ++ (key, w) :: rest := by
        rw [Keyed.put_append_of_not_mem hkey, Keyed.put]
        simp
      cases failure with
      | some f =>
        rw [Deferred.settleEntries_cons_of_fault hs, ← hput]
        exact performAll_cons_of_fault hget hv _
      | none =>
        rw [Deferred.settleEntries_cons_of_done hs, ← hnext w, ← hput]
        exact performAll_cons_of_done hget hv _

/-- Performing the plan of a node does the acts to its leaves. -/
theorem perform_ofValue (probing : Bool) (acts : List Deferred) {v : Value} (hv : v.WellKeyed) :
    Settles acts (ofValue probing acts v) v := by
  induction v using Value.leafInduction with
  | leaf v hleaf =>
    intro place
    rw [ofValue_of_leaf hleaf, Deferred.settle_of_leaf hleaf]
    rfl
  | map entries ih =>
    intro place
    obtain ⟨hd, hentries⟩ := Value.wellKeyed_map.1 hv
    unfold ofValue
    split
    · rename_i hempty
      obtain rfl := List.isEmpty_iff.1 (Bool.and_eq_true_iff.1 hempty).2
      have hacts := Deferred.actAll_of_unchanged (fun d => d.act_map []) acts
      simp [perform, hacts, Deferred.settle_map, Deferred.settleEntries]
    · have hall := performAll_ofEntries (fun e he => ih e he (hentries e he)) place [] hd
      rw [List.nil_append, List.nil_append] at hall
      rw [Deferred.settle_map]
      unfold nest
      split
      · rename_i hempty
        rw [List.isEmpty_iff.1 hempty, performAll] at hall
        obtain ⟨hvalue, hfault⟩ := Prod.mk.inj hall
        rw [← hvalue, ← hfault]
        rfl
      · simp [perform, hall]

end Plan

/-! ## Performing the plan of a walk -/

namespace RuleSet

/-- Does to every field that has a rule, and is not passed through, the acts of the rule. -/
def settle : RuleSet → List (String × Value) → List (String × Value) × Option Failure
  | [], fields => (fields, none)
  | (name, rule) :: set, fields =>
    match Keyed.get? fields name with
    | none => settle set fields
    | some v =>
      if rule.ignore then settle set fields
      else
        let (v, failure) := Deferred.settle rule.acts name v
        let fields := Keyed.put fields name v
        match failure with
        | some f => (fields, some f)
        | none => settle set fields

section
variable {set : RuleSet} {fields : List (String × Value)} {name : String} {rule : FieldRule}

theorem settle_cons_of_skips (h : Walk.Skips fields (name, rule)) :
    settle ((name, rule) :: set) fields = settle set fields := by
  rw [settle]
  split
  · rfl
  · rename_i v hv
    have hi : rule.ignore = true := h.resolve_left (by simp [hv])
    rw [if_pos hi]

section
variable {v w : Value} (hi : rule.ignore = false) (hv : Keyed.get? fields name = some v)
include hi hv

theorem settle_cons_of_fault {f : Failure} (h : Deferred.settle rule.acts name v = (w, some f)) :
    settle ((name, rule) :: set) fields = (Keyed.put fields name w, some f) := by
  rw [settle]
  simp only [hv, hi, h, Bool.false_eq_true, if_false]

theorem settle_cons_of_done (h : Deferred.settle rule.acts name v = (w, none)) :
    settle ((name, rule) :: set) fields = settle set (Keyed.put fields name w) := by
  rw [settle]
  simp only [hv, hi, h, Bool.false_eq_true, if_false]

end

/-- The leaves to which the acts of a rule are done, with their places. -/
def dueLeaves (fields : List (String × Value)) (r : String × FieldRule) : List (List String × Value) :=
  if r.2.ignore then [] else (Keyed.get? fields r.1).toList.flatMap fun v => v.places false [r.1]

/-- A field when the acts of its rule, if it has one, are done to every leaf. -/
def settledValue (set : RuleSet) (name : String) (v : Value) : Value :=
  match Keyed.get? set name with
  | some rule => if rule.ignore then v else v.mapLeaves fun w => (Deferred.actAll rule.acts w).1
  | none => v

theorem dueLeaves_of_skips (h : Walk.Skips fields (name, rule)) : dueLeaves fields (name, rule) = [] := by
  unfold dueLeaves
  split
  · rfl
  · rename_i hi
    rw [h.resolve_right hi]
    rfl

theorem dueLeaves_put {r : String × FieldRule} (h : r.1 ≠ name) (v : Value) :
    dueLeaves (Keyed.put fields name v) r = dueLeaves fields r := by
  rw [dueLeaves, dueLeaves, Keyed.get?_put, if_neg h.symm]

theorem findSome?_congr {α β : Type} {as : List α} {f g : α → Option β} (h : ∀ a ∈ as, f a = g a) :
    as.findSome? f = as.findSome? g := by
  have hmap : ∀ k : α → Option β, as.findSome? k = (as.map k).findSome? id := by simp [List.findSome?_map]
  rw [hmap, hmap, List.map_congr_left h]

/-- The acts of the rules fail just if they fail on a leaf, and the first such leaf, in the order of the rules and
then of the tree, says how. -/
theorem settle_snd (hset : Keyed.Distinct set) : (settle set fields).2 =
    set.findSome? fun r => (dueLeaves fields r).findSome? (Deferred.failureAt? r.2.acts) := by
  induction set generalizing fields with
  | nil => rfl
  | cons r set ih =>
    obtain ⟨name, rule⟩ := r
    obtain ⟨hname, hset⟩ := List.nodup_cons.1 hset
    rw [List.findSome?_cons]
    by_cases hs : Walk.Skips fields (name, rule)
    · rw [settle_cons_of_skips hs, dueLeaves_of_skips hs, ih hset]
      rfl
    · obtain ⟨v, hv, hi⟩ := Walk.exists_of_not_skips hs
      have hdue : dueLeaves fields (name, rule) = v.places false [name] := by
        simp [dueLeaves, hi, hv]
      have hsettle : (Deferred.settle rule.acts name v).2 =
          (v.places false [name]).findSome? (Deferred.failureAt? rule.acts) := Deferred.settle_snd rule.acts v [name]
      rw [hdue]
      rcases hw : Deferred.settle rule.acts name v with ⟨w, _ | f⟩
      · rw [hw] at hsettle
        rw [settle_cons_of_done hi hv hw, ih hset, ← hsettle]
        -- The fields of the other rules are as before.
        refine findSome?_congr fun r hr => ?_
        have hne : r.1 ≠ name := fun he => hname (he ▸ Keyed.mem_keys.2 ⟨r.2, hr⟩)
        rw [dueLeaves_put hne]
      · rw [hw] at hsettle
        rw [settle_cons_of_fault hi hv hw, ← hsettle]

/-- The fields stay, in their order. -/
theorem keys_settle (set : RuleSet) (fields : List (String × Value)) :
    Keyed.keys (settle set fields).1 = Keyed.keys fields := by
  induction set generalizing fields with
  | nil => rfl
  | cons r set ih =>
    obtain ⟨name, rule⟩ := r
    by_cases hs : Walk.Skips fields (name, rule)
    · rw [settle_cons_of_skips hs, ih]
    · obtain ⟨v, hv, hi⟩ := Walk.exists_of_not_skips hs
      have hput : ∀ w, Keyed.keys (Keyed.put fields name w) = Keyed.keys fields :=
        Keyed.keys_put_of_mem (Keyed.mem_keys_of_get? hv)
      rcases hw : Deferred.settle rule.acts name v with ⟨w, _ | f⟩
      · rw [settle_cons_of_done hi hv hw, ih, hput]
      · rw [settle_cons_of_fault hi hv hw, hput]

theorem settledValue_of_not_mem (h : name ∉ Keyed.keys set) (v : Value) : settledValue set name v = v := by
  rw [settledValue, Keyed.get?_of_not_mem h]

theorem settledValue_cons_of_ne {k : String} (h : k ≠ name) (v : Value) :
    settledValue ((name, rule) :: set) k v = settledValue set k v := by
  rw [settledValue, Keyed.get?_cons, if_neg h.symm, settledValue]

theorem settledValue_cons_self (v : Value) : settledValue ((name, rule) :: set) name v =
    if rule.ignore then v else v.mapLeaves fun w => (Deferred.actAll rule.acts w).1 := by
  rw [settledValue, Keyed.get?_cons, if_pos rfl]

theorem get?_settle (hset : Keyed.Distinct set) (h : (settle set fields).2 = none) (k : String) :
    Keyed.get? (settle set fields).1 k = (Keyed.get? fields k).map (settledValue set k) := by
  induction set generalizing fields with
  | nil => exact Option.map_id'.symm
  | cons r set ih =>
    obtain ⟨name, rule⟩ := r
    obtain ⟨hname, hset⟩ := List.nodup_cons.1 hset
    by_cases hs : Walk.Skips fields (name, rule)
    · rw [settle_cons_of_skips hs] at h ⊢
      rw [ih hset h]
      by_cases hk : k = name
      · subst hk
        refine Option.map_congr fun v hv => ?_
        rw [settledValue_of_not_mem hname, settledValue_cons_self, if_pos (hs.resolve_left (by simp [hv]))]
      · exact Option.map_congr fun v _ => (settledValue_cons_of_ne hk v).symm
    · obtain ⟨v, hv, hi⟩ := Walk.exists_of_not_skips hs
      rcases hw : Deferred.settle rule.acts name v with ⟨w, _ | f⟩
      · rw [settle_cons_of_done hi hv hw] at h ⊢
        have hvalue : w = v.mapLeaves fun u => (Deferred.actAll rule.acts u).1 := by
          have := Deferred.settle_fst (congrArg Prod.snd hw)
          rwa [hw] at this
        rw [ih hset h, Keyed.get?_put]
        by_cases hk : k = name
        · subst hk
          rw [if_pos rfl, hv, Option.map_some, Option.map_some, settledValue_of_not_mem hname,
            settledValue_cons_self, hi, hvalue]
          rfl
        · rw [if_neg (Ne.symm hk)]
          exact Option.map_congr fun u _ => (settledValue_cons_of_ne hk u).symm
      · rw [settle_cons_of_fault hi hv hw] at h
        cases h

/-- Where no act fails, every leaf of a field with a rule is what the acts of the rule make of it, and all else
stays. -/
theorem settle_fst (hset : Keyed.Distinct set) (hfields : Keyed.Distinct fields) (h : (settle set fields).2 = none) :
    (settle set fields).1 = fields.map fun e => (e.1, settledValue set e.1 e.2) := by
  have hkeys := keys_settle set fields
  refine Keyed.ext_get? ?_ ?_ fun k hk => ?_
  · rwa [Keyed.Distinct, hkeys]
  · rw [hkeys, Keyed.keys, Keyed.keys, List.map_map]
    rfl
  · rw [get?_settle hset h, Keyed.get?_mapWithKey]

end

end RuleSet

namespace Plan

/-- The plans do the acts of a rule to its field, and there are none if the field is skipped. -/
structure Serves (fields : List (String × Value)) (r : String × FieldRule) (plans : List (String × Plan)) : Prop where
  skips : Walk.Skips fields r → plans = []
  visits : ∀ v, Keyed.get? fields r.1 = some v → r.2.ignore = false →
    ∃ plan?, plans = (Option.toList plan?).map (fun plan => (r.1, plan)) ∧ Settles r.2.acts plan? v

theorem Serves.of_get? {fields fields' : List (String × Value)} {r : String × FieldRule}
    {plans : List (String × Plan)} (h : Serves fields r plans)
    (hget : Keyed.get? fields r.1 = Keyed.get? fields' r.1) : Serves fields' r plans where
  skips hs := h.skips (hs.imp_left hget.trans)
  visits v hv := h.visits v (hget.trans hv)

/-- Performing plans that serve the fields one after another does the acts of every rule to its field. -/
theorem performAll_of_serves {set : RuleSet} (hset : Keyed.Distinct set)
    {plans : String × FieldRule → List (String × Plan)} {fields : List (String × Value)}
    (h : ∀ r ∈ set, Serves fields r (plans r)) : performAll "" (set.flatMap plans) fields = set.settle fields := by
  induction set generalizing fields with
  | nil => rfl
  | cons r set ih =>
    obtain ⟨name, rule⟩ := r
    obtain ⟨hname, hset⟩ := List.nodup_cons.1 hset
    obtain ⟨hr, hrest⟩ := List.forall_mem_cons.1 h
    rw [List.flatMap_cons]
    by_cases hs : Walk.Skips fields (name, rule)
    · rw [hr.skips hs, RuleSet.settle_cons_of_skips hs, List.nil_append, ih hset hrest]
    · obtain ⟨v, hv, hi⟩ := Walk.exists_of_not_skips hs
      obtain ⟨plan?, hplans, hsettles⟩ := hr.visits v hv hi
      have hsettles := hsettles name
      have hput : ∀ w, ∀ r ∈ set, Serves (Keyed.put fields name w) r (plans r) := by
        intro w r hm
        refine (hrest r hm).of_get? ?_
        rw [Keyed.get?_put, if_neg]
        rintro rfl
        exact hname (Keyed.mem_keys.2 ⟨r.2, hm⟩)
      rcases hw : Deferred.settle rule.acts name v with ⟨w, failure⟩
      rw [hw] at hsettles
      rw [hplans]
      cases plan? with
      | none =>
        obtain ⟨rfl, rfl⟩ := Prod.mk.inj hsettles
        rw [RuleSet.settle_cons_of_done hi hv hw, Keyed.put_of_get? hv]
        exact ih hset hrest
      | some plan =>
        have hperform : perform (extendPath "" name) plan v = (w, failure) := by
          rw [show extendPath "" name = name from rfl]
          exact hsettles
        cases failure with
        | some f =>
          rw [RuleSet.settle_cons_of_fault hi hv hw]
          exact performAll_cons_of_fault hv hperform _
        | none =>
          rw [RuleSet.settle_cons_of_done hi hv hw, ← ih hset (hput w)]
          exact performAll_cons_of_done hv hperform _

end Plan

end FieldRules
