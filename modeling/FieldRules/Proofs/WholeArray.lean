import FieldRules.Proofs.Membership
/-!
# Arrays that are judged as one value

If the rule of a field opens with a membership test that has a modifier, an array in the field is judged as one value:
the tests that take the whole see the texts of its scalar leaves, at any depth and in one list, and the leaves are put
to the other tests alone (`field_whole_ok_iff`). So `enum:only` is a closed list for the scalars of the array, and
uploads are no scalars (`only_listed`); and `required` asks whether the array has entries, and not whether they are
blank (`blank_array_ok_iff`).
-/

namespace FieldRules

namespace Value

theorem at_of_leaf {v w : Value} (h : v.isMap = false) {path : List String} : v.At path w ↔ path = [] ∧ w = v := by
  constructor
  · intro hat
    cases hat with
    | root => exact ⟨rfl, rfl⟩
    | entry => cases h
  · rintro ⟨rfl, rfl⟩
    exact .root _

/-- An upload is the only leaf that is no scalar. -/
theorem exists_scalarText {w : Value} (h : w.isMap = false) (hu : ∀ u, w ≠ .upload u) :
    ∃ s, w.scalarText? = some s := by
  cases w with
  | upload u => exact absurd rfl (hu u)
  | map entries => cases h
  | _ => exact ⟨_, rfl⟩

theorem not_isMap_of_scalarText {w : Value} {s : String} (h : w.scalarText? = some s) : w.isMap = false := by
  cases w with
  | map entries => cases h
  | _ => rfl

theorem eq_text_of_isBlank {w : Value} (h : w.isBlank = true) : ∃ s, w = .text s ∧ isBlankText s = true := by
  cases w with
  | text s => exact ⟨s, rfl, h⟩
  | _ => cases h

/-- Every tree has a leaf, or an empty map for which an unset leaf stands in. -/
theorem exists_isPlace (v : Value) : ∃ below w, v.IsPlace true below w := by
  induction v using leafInduction with
  | leaf v hv => exact ⟨[], v, (isPlace_of_leaf hv).2 ⟨rfl, rfl⟩⟩
  | map entries ih =>
    rcases entries with _ | ⟨e, es⟩
    · exact ⟨[], Value.empty, isPlace_nil_of_entries.2 ⟨rfl, rfl, rfl⟩⟩
    · obtain ⟨below, w, hw⟩ := ih e List.mem_cons_self
      exact ⟨e.1 :: below, w, isPlace_cons.2 ⟨e.2, List.mem_cons_self, hw⟩⟩

end Value

namespace Walk

variable {scope : Scope} {rule : FieldRule} {path : List String} {v : Value} {t : Token}
  {entries : List (String × Value)}

/-! ## The scalars of an array -/

theorem entryScalars_eq (entries : List (String × Value)) :
    entryScalars entries = entries.flatMap fun e => scalars e.2 := by
  induction entries with
  | nil => rfl
  | cons e es ih => rw [entryScalars, ih, List.flatMap_cons]

theorem scalars_of_leaf (h : v.isMap = false) : scalars v = v.scalarText?.toList := by
  cases v with
  | map entries => cases h
  | _ => rfl

/-- The scalars of a tree are the texts of its scalar leaves, however deep. -/
theorem mem_scalars_iff {s : String} : s ∈ scalars v ↔ ∃ below w, v.At below w ∧ w.scalarText? = some s := by
  induction v using Value.leafInduction with
  | leaf v hv => simp [scalars_of_leaf hv, Value.at_of_leaf hv]
  | map entries ih =>
    rw [scalars, entryScalars_eq, List.mem_flatMap]
    constructor
    · rintro ⟨e, he, hs⟩
      obtain ⟨below, w, hw, htext⟩ := (ih e he).1 hs
      exact ⟨e.1 :: below, w, .entry he hw, htext⟩
    · rintro ⟨_ | ⟨key, below⟩, w, hw, htext⟩
      · rw [Value.at_nil.1 hw] at htext
        cases htext
      · obtain ⟨v, hv, hw⟩ := Value.at_cons.1 hw
        exact ⟨_, hv, (ih _ hv).2 ⟨below, w, hw, htext⟩⟩

theorem scalars_ne_nil_iff : scalars v ≠ [] ↔ ∃ below w s, v.At below w ∧ w.scalarText? = some s := by
  constructor
  · intro hne
    obtain ⟨s, hs⟩ := List.exists_mem_of_ne_nil _ hne
    obtain ⟨below, w, hw⟩ := mem_scalars_iff.1 hs
    exact ⟨below, w, s, hw⟩
  · rintro ⟨below, w, s, hw⟩
    exact List.ne_nil_of_mem (mem_scalars_iff.2 ⟨below, w, hw⟩)

/-- Blank texts are scalars, so an array of blank texts has scalars if it has leaves. -/
theorem scalars_ne_nil_of_isBlank (hblank : ∀ below w, v.At below w → w.isMap = false → w.isBlank = true) :
    scalars v ≠ [] ↔ ∃ below w, v.At below w ∧ w.isMap = false := by
  rw [scalars_ne_nil_iff]
  constructor
  · rintro ⟨below, w, s, hat, hs⟩
    exact ⟨below, w, hat, Value.not_isMap_of_scalarText hs⟩
  · rintro ⟨below, w, hat, hw⟩
    obtain ⟨s, rfl, -⟩ := Value.eq_text_of_isBlank (hblank below w hat hw)
    exact ⟨below, _, s, hat, rfl⟩

/-! ## The stand-in and the leaves -/

/-- The scope in which an array is judged as one value. -/
def stashing (scope : Scope) (v : Value) : Scope := { scope with stash := some (scalars v) }

/-- The test of a token accepts the stand-in of an array. -/
def AcceptsWhole (scope : Scope) (v : Value) (t : Token) : Prop :=
  (Evaluation.mk (stashing scope v) t (.text arrayMark)).Accepts

theorem acceptsWhole_membership_iff (hm : t.test.isMembership = true) :
    AcceptsWhole scope v t ↔ t.unsupported? = none ∧ t.Admits (scalars v) := by
  have hset : (Subject.text arrayMark).isUnset = false := by decide
  rw [AcceptsWhole, Evaluation.accepts_membership_iff hm]
  simp [stashing, hset, Check.submitted_standIn]

theorem acceptsWhole_required_iff (ht : t.test = .required) :
    AcceptsWhole scope v t ↔ t.unsupported? = none ∧ scalars v ≠ [] := by
  have hmark : (Subject.text arrayMark).isArrayMark = true := by decide
  rw [AcceptsWhole, Evaluation.accepts_required_iff ht]
  simp [stashing, Check.isPresent, hmark]

/-- An array that is judged as one value passes just if every test that takes the whole accepts its stand-in, and every
leaf passes the other tests. -/
theorem field_whole_ok_iff (h : rule.judgesWhole v = true) :
    (∃ notes, (field scope rule path v).value.outcome = .ok notes) ↔
      (∀ t ∈ rule.wholeChecks, AcceptsWhole scope v t) ∧
      ∀ below w, v.At below w → w.isMap = false →
        ∀ e ∈ evaluations (stashing scope v) rule.entryChecks w, e.Accepts := by
  have htakes : ∀ t ∈ rule.wholeChecks, t.test.takesWholeArray = true := fun t ht => (List.mem_filter.1 ht).2
  have hwhole : rule.wholeEvaluations scope v = evaluations (stashing scope v) rule.wholeChecks (.text arrayMark) := by
    rw [FieldRule.wholeEvaluations, FieldRule.scopeOf, if_pos h, if_pos h]
    rfl
  rw [field_ok_iff]
  unfold AcceptsWhole
  rw [← accepts_standIn_iff htakes, ← hwhole]
  simp only [mem_evaluations_iff, or_imp, forall_and]
  refine and_congr_right fun _ => ?_
  rw [FieldRule.scopeOf, FieldRule.leafChecks, if_pos h, if_pos h, h]
  constructor
  · exact fun hall below w hat hw e he => hall e ⟨below, w, .inl ⟨hat, hw⟩, he⟩
  · rintro hall e ⟨below, w, ⟨hat, hw⟩ | ⟨hp, -⟩, he⟩
    · exact hall below w hat hw e he
    · cases hp

theorem mem_wholeChecks_iff {tokens : List Token} (hrule : FieldRule.ofTokens tokens = .ok rule) :
    t ∈ rule.wholeChecks ↔ t ∈ tokens ∧ t.test.takesWholeArray = true := by
  rw [FieldRule.wholeChecks, List.mem_filter, FieldRule.mem_checks_iff hrule]
  constructor
  · rintro ⟨⟨ht, -⟩, htakes⟩
    exact ⟨ht, htakes⟩
  · rintro ⟨ht, htakes⟩
    exact ⟨⟨ht, Test.not_isDeferred_of_takesWholeArray htakes⟩, htakes⟩

theorem judgesWhole_map (hne : entries ≠ []) : rule.judgesWhole (.map entries) = rule.wholeArray := by
  simp [FieldRule.judgesWhole, hne]

/-! ## A closed list -/

/-- The mode `only` of `enum`: there is an entry, and every entry is in the list. -/
theorem admits_only_iff (ht : t.test = .enum) (hm : t.modifiers = [.only]) {texts : List String} :
    t.Admits texts ↔ texts ≠ [] ∧ ∀ s ∈ texts, s ∈ t.values := by
  have hrelation : Relation.ofToken t = .subset := by simp [Relation.ofToken, Token.has, hm]
  simp only [Token.Admits, ht, hrelation, Relation.holds, iff_true, Bool.and_eq_true, Bool.not_eq_true',
    List.isEmpty_eq_false_iff, List.all_eq_true, List.contains_iff_mem]
  constructor
  · exact fun h => h.2
  · rintro ⟨hne, hall⟩
    obtain ⟨s, hs⟩ := List.exists_mem_of_ne_nil _ hne
    exact ⟨List.ne_nil_of_mem (hall s hs), hne, hall⟩

/-- All scalars are in a list just if every leaf is an upload or a scalar in the list. -/
theorem forall_scalars_iff {list : List String} : (∀ s ∈ scalars v, s ∈ list) ↔
    ∀ below w, v.At below w → w.isMap = false → (∃ u, w = .upload u) ∨ ∃ s ∈ list, w.scalarText? = some s := by
  constructor
  · intro h below w hat hw
    by_cases hu : ∃ u, w = .upload u
    · exact .inl hu
    · obtain ⟨s, hs⟩ := Value.exists_scalarText hw (not_exists.1 hu)
      exact .inr ⟨s, h s (mem_scalars_iff.2 ⟨below, w, hat, hs⟩), hs⟩
  · intro h s hs
    obtain ⟨below, w, hat, htext⟩ := mem_scalars_iff.1 hs
    rcases h below w hat (Value.not_isMap_of_scalarText htext) with ⟨u, rfl⟩ | ⟨r, hr, hrtext⟩
    · cases htext
    · rw [htext] at hrtext
      cases hrtext
      exact hr

/-- A rule that opens with `enum:only` is a closed list for the scalars of an array. The walk of the array ends well
just if it has a scalar leaf, every leaf at any depth is a scalar of the list or an upload, the other tests that take
the whole accept it, and every leaf, uploads among them, passes the tests that are left. -/
theorem only_listed (scope : Scope) (ht : t.test = .enum) (hm : t.modifiers = [.only]) {ts : List Token}
    (hrule : FieldRule.ofTokens (t :: ts) = .ok rule) (hne : entries ≠ []) (path : List String) :
    let v := Value.map entries
    (∃ notes, (field scope rule path v).value.outcome = .ok notes) ↔
      (∃ below w s, v.At below w ∧ w.scalarText? = some s) ∧
      (∀ below w, v.At below w → w.isMap = false → (∃ u, w = .upload u) ∨ ∃ s ∈ t.values, w.scalarText? = some s) ∧
      (∀ u ∈ ts, u.test.takesWholeArray = true → AcceptsWhole scope v u) ∧
      ∀ below w, v.At below w → w.isMap = false →
        ∀ e ∈ evaluations (stashing scope v) rule.entryChecks w, e.Accepts := by
  intro v
  have hmembership : t.test.isMembership = true := by rw [ht]; rfl
  have htakes : t.test.takesWholeArray = true := Test.takesWholeArray_iff.2 (.inl hmembership)
  have hmade := FieldRule.eq_compiled hrule
  have hwhole : rule.judgesWhole v = true := by
    rw [judgesWhole_map hne, hmade]
    simp [FieldRule.compiled, hmembership, hm]
  have hsupported : t.unsupported? = none := by
    rw [Token.unsupported?, hm, ht]
    rfl
  rw [field_whole_ok_iff hwhole]
  simp only [mem_wholeChecks_iff hrule, List.mem_cons, and_imp, or_imp, forall_and, forall_eq, htakes, true_imp_iff]
  rw [acceptsWhole_membership_iff hmembership, admits_only_iff ht hm, scalars_ne_nil_iff, forall_scalars_iff]
  simp only [hsupported, true_and, and_assoc]

theorem only_listed_tags :
    let scope : Scope := { collaborators := .mute }
    let t : Token := { test := .enum, modifiers := [.only], values := ["red", "blue"] }
    let rule : FieldRule := { checks := [t, { test := .required }], wholeArray := true, demandsPresence := true }
    let entries := [("0", Value.text "red"), ("1", .map [("x", .text "blue")])]
    t.test = .enum ∧ t.modifiers = [.only] ∧ FieldRule.ofTokens [t, { test := .required }] = .ok rule ∧ entries ≠ [] ∧
      (∃ notes, (field scope rule ["tags"] (.map entries)).value.outcome = .ok notes) ∧
      ∀ below w, (Value.map entries).At below w → w.isMap = false →
        (∃ u, w = .upload u) ∨ ∃ s ∈ ["red", "blue"], w.scalarText? = some s := by
  intro scope t rule entries
  have hok : (field scope rule ["tags"] (.map entries)).value.outcome =
      .ok [⟨["tags", "0"], []⟩, ⟨["tags", "1", "x"], []⟩] := by
    decide
  have hrule : FieldRule.ofTokens [t, { test := .required }] = .ok rule := rfl
  have hne : entries ≠ [] := List.cons_ne_nil _ _
  obtain ⟨-, hlisted, -⟩ := (only_listed scope rfl rfl hrule hne ["tags"]).1 ⟨_, hok⟩
  exact ⟨rfl, rfl, hrule, hne, ⟨_, hok⟩, hlisted⟩

/-- An upload beside listed scalars is let through, although it is no scalar of the list. -/
theorem upload_beside_listed :
    let scope : Scope := { collaborators := .mute }
    let t : Token := { test := .enum, modifiers := [.only], values := ["red"] }
    let upload : Value := .upload { name := "a.exe", claimedType := "x/y", path := "t", error := 0, size := 10 }
    let v := Value.map [("0", .text "red"), ("1", upload)]
    ∃ rule, FieldRule.ofTokens [t] = .ok rule ∧ (∃ notes, (field scope rule ["tags"] v).value.outcome = .ok notes) ∧
      v.At ["1"] upload ∧ upload.isMap = false ∧ ¬ ∃ s ∈ t.values, upload.scalarText? = some s := by
  intro scope t upload v
  have hat : v.At ["1"] upload := .entry (.tail _ (.head _)) (.root _)
  refine ⟨_, rfl, ⟨[⟨["tags", "0"], []⟩, ⟨["tags", "1"], []⟩], by decide⟩, hat, rfl, ?_⟩
  rintro ⟨s, -, hs⟩
  cases hs

/-! ## Blank arrays -/

/-- A blank text is refused by `required`, whatever tests of membership come before it. -/
theorem not_accepts_blank {ts : List Token} (hts : ∀ t ∈ ts, t.test.takesWholeArray = true)
    (hrequired : ∃ t ∈ ts, t.test = .required) {s : String} (hs : isBlankText s = true) :
    ¬ ∀ e ∈ evaluations scope ts (.text s), e.Accepts := by
  induction ts generalizing s with
  | nil =>
    obtain ⟨t, ht, -⟩ := hrequired
    cases ht
  | cons t ts ih =>
    intro h
    have hmark : s ≠ arrayMark := by
      rintro rfl
      exact absurd hs (by decide)
    unfold evaluations at h
    dsimp only at h
    obtain ⟨outcome, ho⟩ : (Evaluation.mk scope t (.text s)).Accepts := by
      split at h <;> exact h _ List.mem_cons_self
    rw [show Subject.ofValue (.text s) = .text s from rfl, ho] at h
    obtain ⟨-, hrest⟩ := List.forall_mem_cons.1 h
    by_cases ht : t.test = .required
    · have hpresent := ((Evaluation.accepts_required_iff ht).1 ⟨outcome, ho⟩).2
      simp [Check.isPresent, Subject.isArrayMark, Subject.isEmpty, hmark, hs] at hpresent
    · obtain ⟨u, hu, hur⟩ := hrequired
      have hu : u ∈ ts := (List.mem_cons.1 hu).resolve_left fun he => ht (he ▸ hur)
      have hts := List.forall_mem_cons.1 hts
      -- The text stays as it is or becomes the unset mark, which is blank too.
      rcases Evaluation.outcome_of_takesWholeArray hts.1 ho with rfl | ⟨rfl, -⟩
      · exact ih hts.2 ⟨u, hu, hur⟩ hs hrest
      · exact ih hts.2 ⟨u, hu, hur⟩ (s := emptyMark) (by decide) hrest

section
variable {tokens : List Token} (hrule : FieldRule.ofTokens tokens = .ok rule)
  (htokens : ∀ t ∈ tokens, t.test.takesWholeArray = true ∧ t.unsupported? = none)
include hrule htokens

theorem checks_of_takesWholeArray : rule.checks = tokens := by
  rw [FieldRule.eq_compiled hrule]
  refine List.filter_eq_self.2 fun t ht => ?_
  rw [Test.not_isDeferred_of_takesWholeArray (htokens t ht).1]
  rfl

theorem wholeChecks_of_takesWholeArray : rule.wholeChecks = tokens := by
  rw [FieldRule.wholeChecks, checks_of_takesWholeArray hrule htokens]
  exact List.filter_eq_self.2 fun t ht => (htokens t ht).1

theorem entryChecks_of_takesWholeArray : rule.entryChecks = [] := by
  rw [FieldRule.entryChecks, checks_of_takesWholeArray hrule htokens]
  exact List.filter_eq_nil_iff.2 fun t ht => by simp [(htokens t ht).1]

section
variable (hrequired : ∃ t ∈ tokens, t.test = .required)
  (hblank : ∀ below w, v.At below w → w.isMap = false → w.isBlank = true)
include hrequired hblank

/-- Judged leaf by leaf, the first blank text or empty map is refused. -/
theorem not_field_ok_of_isBlank (hj : rule.judgesWhole v = false) :
    ¬ ∃ notes, (field scope rule path v).value.outcome = .ok notes := by
  rw [field_ok_iff]
  intro hall
  obtain ⟨below, w, hw⟩ := v.exists_isPlace
  obtain ⟨s, rfl, hs⟩ : ∃ s, w = .text s ∧ isBlankText s = true := by
    rcases hw with ⟨hat, hleaf⟩ | ⟨-, -, rfl⟩
    · exact Value.eq_text_of_isBlank (hblank below w hat hleaf)
    · exact ⟨emptyMark, rfl, by decide⟩
  have hrefused : ¬ ∀ e ∈ evaluations scope tokens (.text s), e.Accepts :=
    not_accepts_blank (fun t ht => (htokens t ht).1) hrequired hs
  refine hrefused fun e he => hall e ?_
  refine mem_evaluations_iff.2 (.inr ⟨below, .text s, by simpa [hj] using hw, ?_⟩)
  simpa [FieldRule.scopeOf, FieldRule.leafChecks, hj, checks_of_takesWholeArray hrule htokens] using he

/-- Judged as one value, the array passes `required` if it has a leaf, and no leaf is put to a test of its own. -/
theorem field_whole_ok_iff_of_isBlank (hj : rule.judgesWhole v = true) :
    (∃ notes, (field scope rule path v).value.outcome = .ok notes) ↔
      (∃ below w, v.At below w ∧ w.isMap = false) ∧
        ∀ t ∈ tokens, t.test.isMembership = true → t.Admits (scalars v) := by
  rw [field_whole_ok_iff hj, wholeChecks_of_takesWholeArray hrule htokens, entryChecks_of_takesWholeArray hrule htokens,
    ← scalars_ne_nil_of_isBlank hblank]
  simp only [evaluations, List.not_mem_nil, false_imp_iff, implies_true, and_true]
  constructor
  · intro hall
    obtain ⟨t, ht, hrequired⟩ := hrequired
    refine ⟨((acceptsWhole_required_iff hrequired).1 (hall t ht)).2, fun u hu hm => ?_⟩
    exact ((acceptsWhole_membership_iff hm).1 (hall u hu)).2
  · rintro ⟨hne, hall⟩ t ht
    obtain ⟨htakes, hsupported⟩ := htokens t ht
    rcases Test.takesWholeArray_iff.1 htakes with hm | hr
    · exact (acceptsWhole_membership_iff hm).2 ⟨hsupported, hall t ht hm⟩
    · exact (acceptsWhole_required_iff hr).2 ⟨hsupported, hne⟩

end

/-- An array of blank texts, and a rule of `required` and tests of membership. If the leaves are judged one by one, the
walk of the array never ends well. If the array is judged as one value, it ends well just if the array has a leaf and
every test of membership admits the blank texts. -/
theorem blank_array_ok_iff (scope : Scope) (hrequired : ∃ t ∈ tokens, t.test = .required) (hne : entries ≠ [])
    (hblank : ∀ below w, (Value.map entries).At below w → w.isMap = false → w.isBlank = true) (path : List String) :
    (∃ notes, (field scope rule path (.map entries)).value.outcome = .ok notes) ↔
      rule.wholeArray = true ∧ (∃ below w, (Value.map entries).At below w ∧ w.isMap = false) ∧
        ∀ t ∈ tokens, t.test.isMembership = true → t.Admits (scalars (.map entries)) := by
  have hj : rule.judgesWhole (.map entries) = rule.wholeArray := judgesWhole_map hne
  cases hwhole : rule.wholeArray with
  | false =>
    simp only [Bool.false_eq_true, false_and, iff_false]
    exact not_field_ok_of_isBlank hrule htokens hrequired hblank (hj.trans hwhole)
  | true =>
    rw [field_whole_ok_iff_of_isBlank hrule htokens hrequired hblank (hj.trans hwhole)]
    simp

end

theorem isBlank_of_single {key s : String} (hs : isBlankText s = true) (below : List String) (w : Value)
    (hat : (Value.map [(key, .text s)]).At below w) (hw : w.isMap = false) : w.isBlank = true := by
  cases hat with
  | root => cases hw
  | entry hm hat =>
    obtain ⟨rfl, rfl⟩ := Prod.mk.inj (List.mem_singleton.1 hm)
    rw [((Value.at_of_leaf rfl).1 hat).2]
    exact hs

theorem blank_array_ok_iff_roles :
    let scope : Scope := { collaborators := .mute }
    let denied : Token := { test := .nenum, modifiers := [.any], values := ["admin"] }
    let blank := [("0", Value.text "")]
    (∀ below w, (Value.map blank).At below w → w.isMap = false → w.isBlank = true) ∧
      (∃ rule, FieldRule.ofTokens [denied, { test := .required }] = .ok rule ∧
        ∃ notes, (field scope rule ["roles"] (.map blank)).value.outcome = .ok notes) ∧
      ∃ rule, FieldRule.ofTokens [{ test := .required }, denied] = .ok rule ∧
        ¬ ∃ notes, (field scope rule ["roles"] (.map blank)).value.outcome = .ok notes := by
  intro scope denied blank
  have hblank : ∀ below w, (Value.map blank).At below w → w.isMap = false → w.isBlank = true :=
    isBlank_of_single (by decide)
  have htokens : ∀ t ∈ [denied, { test := .required }], t.test.takesWholeArray = true ∧ t.unsupported? = none := by
    simp only [List.forall_mem_cons, List.not_mem_nil, false_imp_iff, implies_true, and_true]
    exact ⟨⟨rfl, rfl⟩, rfl, rfl⟩
  have hswapped : ∀ t ∈ [{ test := .required }, denied], t.test.takesWholeArray = true ∧ t.unsupported? = none :=
    fun t ht => htokens t (by simpa [or_comm] using ht)
  refine ⟨hblank, ⟨_, rfl, ?_⟩, _, rfl, ?_⟩
  · refine (blank_array_ok_iff rfl htokens scope ⟨_, .tail _ (.head _), rfl⟩ (List.cons_ne_nil _ _) hblank ["roles"]).2
      ⟨rfl, ⟨["0"], _, .entry (.head _) (.root _), rfl⟩, ?_⟩
    simp only [List.forall_mem_cons, List.not_mem_nil, false_imp_iff, implies_true, and_true]
    exact ⟨fun _ => ⟨List.cons_ne_nil _ _, by decide⟩, fun h => by cases h⟩
  · intro hok
    have hiff := blank_array_ok_iff rfl hswapped scope ⟨_, .head _, rfl⟩ (List.cons_ne_nil _ _) hblank ["roles"]
    exact absurd (hiff.1 hok).1 (by decide)

/-- Where `required` is put to an array as one value, an array of nothing but blank texts passes. -/
theorem blank_roles_accepted :
    let scope : Scope := { collaborators := .mute }
    let tokens : List Token := [{ test := .nenum, modifiers := [.any], values := ["admin"] }, { test := .required }]
    let v := Value.map [("0", .text "")]
    ∃ rule, FieldRule.ofTokens tokens = .ok rule ∧
      (∀ t ∈ tokens, t.test.takesWholeArray = true ∧ t.unsupported? = none) ∧ (∃ t ∈ tokens, t.test = .required) ∧
      (∀ below w, v.At below w → w.isMap = false → w.isBlank = true) ∧
      ∃ notes, (field scope rule ["roles"] v).value.outcome = .ok notes := by
  refine ⟨_, rfl, ?_, ⟨_, .tail _ (.head _), rfl⟩, isBlank_of_single (by decide), [⟨["roles", "0"], []⟩], by decide⟩
  simp only [List.forall_mem_cons, List.not_mem_nil, false_imp_iff, implies_true, and_true]
  exact ⟨⟨rfl, rfl⟩, rfl, rfl⟩

end Walk

end FieldRules
