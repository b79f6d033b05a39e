import FieldRules.Proofs.Denial
import FieldRules.Proofs.Kinds
import FieldRules.Proofs.Numerals
/-!
# Comparing

The first pair of comparable values decides a comparison. It is the same pair on whichever side the search begins, so
that an upper bound and a lower bound are mirror images (`comparison_symmetric`). Integers are compared as the nearest
numbers of 53 bits; these keep their order, but two integers that are rounded to one count as equal
(`integer_bounds`).
-/

namespace FieldRules

open FieldRules.Text FieldRules.Binary64

/-! ## The first pair -/

/-- If no two pairs that meet cross each other, the first one is the same by rows and by columns. -/
theorem first_meeting_comm {α β : Type} (meets : α → β → Bool) {vs : List α} {ls : List β}
    (h : vs.Pairwise fun v w => ls.Pairwise fun l m => ¬ (meets v m = true ∧ meets w l = true)) :
    (vs.findSome? fun v => (ls.find? (meets v)).map fun l => (v, l)) =
      ls.findSome? fun l => (vs.find? (meets · l)).map fun v => (v, l) := by
  -- By rows: a row in which nothing meets changes nothing, and one in which something meets decides.
  induction vs with
  | nil => exact (List.findSome?_eq_none_iff.2 fun _ _ => rfl).symm
  | cons v vs ih =>
    obtain ⟨hfirst, hrest⟩ := List.pairwise_cons.1 h
    cases hfind : ls.find? (meets v) with
    | none =>
      have hnone := List.find?_eq_none.1 hfind
      have hskip : ∀ l ∈ ls, ((v :: vs).find? (meets · l)).map (fun v => (v, l)) =
          (vs.find? (meets · l)).map fun v => (v, l) := by
        intro l hl
        have hfar : (v :: vs).find? (meets · l) = vs.find? (meets · l) := List.find?_cons_of_neg (hnone l hl)
        rw [hfar]
      rw [List.findSome?_cons, hfind, Option.map_none, ih hrest, ← List.head?_filterMap, ← List.head?_filterMap,
        List.filterMap_congr hskip]
    | some l =>
      obtain ⟨hmeets, before, after, rfl, hbefore⟩ := List.find?_eq_some_iff_append.1 hfind
      have hskip : ∀ m ∈ before, (v :: vs).find? (meets · m) = none := by
        intro m hm
        refine List.find?_eq_none.2 (List.forall_mem_cons.2 ⟨by simpa using hbefore m hm, fun w hw hcross => ?_⟩)
        -- A later row that meets an earlier column would cross this pair.
        have hapart := (List.pairwise_append.1 (hfirst w hw)).2.2 m hm l (.head _)
        exact hapart ⟨hmeets, hcross⟩
      have hnone : before.findSome? (fun m => ((v :: vs).find? (meets · m)).map fun w => (w, m)) = none :=
        List.findSome?_eq_none_iff.2 fun m hm => by rw [hskip m hm, Option.map_none]
      have hself : (v :: vs).find? (meets · l) = some v := List.find?_cons_of_pos hmeets
      rw [List.findSome?_cons, hfind, List.findSome?_append, hnone, List.findSome?_cons, hself]
      rfl

namespace Reading

theorem comparable_comm (r q : Reading) : r.comparable q = q.comparable r := by
  rw [comparable, comparable, Bool.or_assoc, Bool.or_assoc, Bool.or_comm (linked r q), BEq.comm]

end Reading

/-- The first comparable pair, searched by the values of the text. -/
def firstByValue (vs ls : List Sample) : Option (Sample × Sample) :=
  vs.findSome? fun v => (ls.find? fun l => v.reading.comparable l.reading).map fun l => (v, l)

/-- The first comparable pair, searched by the values of the threshold. -/
def firstByLimit (vs ls : List Sample) : Option (Sample × Sample) :=
  ls.findSome? fun l => (vs.find? fun v => v.reading.comparable l.reading).map fun v => (v, l)

theorem firstByValue_swap (vs ls : List Sample) : (firstByValue ls vs).map Prod.swap = firstByLimit vs ls := by
  rw [firstByValue, List.map_findSome?, firstByLimit]
  congr 1
  funext l
  simp only [Function.comp_apply, Option.map_map, Reading.comparable_comm l.reading]
  rfl

/-- Two texts that are each read as a number and a year have no pairs that cross. -/
theorem firstByValue_sniff (a b : String) : firstByValue (sniff a) (sniff b) = firstByLimit (sniff a) (sniff b) := by
  apply first_meeting_comm (fun v l : Sample => v.reading.comparable l.reading)
  refine (sniff_pairwise a).imp fun hvalue => (sniff_pairwise b).imp fun hlimit hcross => ?_
  have hcomparable := hcross.1
  rw [hvalue.1, hlimit.2] at hcomparable
  cases hcomparable

theorem scalars_firstByValue (vs ls : List Sample) :
    (vs.findSome? fun v =>
      (ls.find? fun l => v.reading.comparable l.reading).map fun l => (v.scalar, l.scalar)) =
      (firstByValue vs ls).map fun p => (p.1.scalar, p.2.scalar) := by
  rw [firstByValue, List.map_findSome?]
  simp only [Function.comp_def, Option.map_map]

theorem comparablePair_eq_ok_iff {a b : String} {p : Binary64 × Binary64} : comparablePair a b = .ok p ↔
    (firstByValue (sniff a) (sniff b)).map (fun p => (p.1.scalar, p.2.scalar)) = some p := by
  unfold comparablePair
  generalize sniff a = vs
  generalize sniff b = ls
  simp only [scalars_firstByValue]
  cases ls with
  | nil =>
    have hnone : firstByValue vs [] = none := List.findSome?_eq_none_iff.2 fun _ _ => rfl
    simp [hnone]
  | cons l ls =>
    cases vs with
    | nil => simp [firstByValue]
    | cons v vs =>
      simp only [List.isEmpty_cons, Bool.false_eq_true, if_false]
      split
      · rename_i hsome
        rw [hsome, Except.ok.injEq, Option.some.injEq]
      · rename_i hnone
        rw [hnone]
        simp

theorem comparablePair_swap {a b : String} {x y : Binary64} (h : comparablePair a b = .ok (x, y)) :
    comparablePair b a = .ok (y, x) := by
  rw [comparablePair_eq_ok_iff] at h ⊢
  obtain ⟨⟨v, l⟩, hfirst, heq⟩ := Option.map_eq_some_iff.1 h
  rw [firstByValue_sniff, ← firstByValue_swap] at hfirst
  obtain ⟨⟨l', v'⟩, hswap, hpair⟩ := Option.map_eq_some_iff.1 hfirst
  cases hpair
  cases heq
  rw [hswap]
  rfl

/-! ## Upper and lower bounds -/

theorem sniff_of_isUnset {s : String} (h : isUnset s = true) : sniff s = [] := by
  rw [isUnset, Bool.or_eq_true, String.isEmpty_iff, beq_iff_eq] at h
  rcases h with rfl | rfl <;> decide

section
variable (test : Test) (holds : Binary64 → Binary64 → Bool) (fault : String → Fault) (a b : String)

theorem bound_eq : Check.bound { test, values := [b] } (.text a) holds fault =
    (comparablePair a b).bind fun p => accept (holds p.1 p.2) (fault b) := by
  have hjoined : Token.joinedValue { test, values := [b] } = .ok b := by simp [Token.joinedValue, join]
  simp only [Check.bound, hjoined, Subject.text?, bind, Except.bind]

theorem bound_eq_accepted_iff : Check.bound { test, values := [b] } (.text a) holds fault = .ok .accepted ↔
    ∃ x y, comparablePair a b = .ok (x, y) ∧ holds x y = true := by
  rw [bound_eq]
  cases comparablePair a b with
  | error _ => simp [Except.bind]
  | ok p => simp [Except.bind, Check.accept_eq_ok_iff, Prod.ext_iff]

/-- What was not submitted is passed over. It could not be compared. -/
theorem passed_over_eq_accepted_iff :
    (if isUnset a then .ok .empty else Check.bound { test, values := [b] } (.text a) holds fault) = .ok .accepted ↔
      ∃ x y, comparablePair a b = .ok (x, y) ∧ holds x y = true := by
  by_cases hunset : isUnset a = true
  · rw [if_pos hunset]
    constructor
    · intro h
      cases h
    · rintro ⟨x, y, hpair, -⟩
      rw [comparablePair_eq_ok_iff, sniff_of_isUnset hunset] at hpair
      cases hpair
  · rw [if_neg hunset]
    exact bound_eq_accepted_iff test holds fault a b

end

section
variable (scope : Scope) (a b : String)

theorem value_run_max : (Evaluation.mk scope { test := .max, values := [b] } (.text a)).run.value =
    if isUnset a then .ok .empty else Check.atMost { test := .max, values := [b] } (.text a) :=
  Validation.value_evaluate rfl scope [b] (.text a)

theorem value_run_min : (Evaluation.mk scope { test := .min, values := [b] } (.text a)).run.value =
    if isUnset a then .ok .empty else Check.atLeast { test := .min, values := [b] } (.text a) :=
  Validation.value_evaluate rfl scope [b] (.text a)

end

/-- A comparison can be read from either side. Its first pair is the same by the values of the text and by those of the
threshold, and so what is not above a threshold is a threshold that the other is not below. -/
theorem comparison_symmetric (a b : String) :
    (∀ x y, comparablePair a b = .ok (x, y) ↔ comparablePair b a = .ok (y, x)) ∧
      firstByValue (sniff a) (sniff b) = firstByLimit (sniff a) (sniff b) ∧
      (Check.atMost { test := .max, values := [b] } (.text a) = .ok .accepted ↔
        Check.atLeast { test := .min, values := [a] } (.text b) = .ok .accepted) ∧
      ∀ scope : Scope,
        (Evaluation.mk scope { test := .max, values := [b] } (.text a)).run.value = .ok .accepted ↔
          (Evaluation.mk scope { test := .min, values := [a] } (.text b)).run.value = .ok .accepted := by
  have hpair : ∀ x y, comparablePair a b = .ok (x, y) ↔ comparablePair b a = .ok (y, x) := fun x y =>
    ⟨comparablePair_swap, comparablePair_swap⟩
  have hmirror : (∃ x y, comparablePair a b = .ok (x, y) ∧ x.le y = true) ↔
      ∃ y x, comparablePair b a = .ok (y, x) ∧ x.le y = true := by
    constructor
    · rintro ⟨x, y, h, hle⟩
      exact ⟨y, x, (hpair x y).1 h, hle⟩
    · rintro ⟨y, x, h, hle⟩
      exact ⟨x, y, (hpair x y).2 h, hle⟩
  refine ⟨hpair, firstByValue_sniff a b, ?_, fun scope => ?_⟩
  · rw [Check.atMost, Check.atLeast, bound_eq_accepted_iff, bound_eq_accepted_iff]
    exact hmirror
  · rw [value_run_max, value_run_min, Check.atMost, Check.atLeast, passed_over_eq_accepted_iff,
      passed_over_eq_accepted_iff]
    exact hmirror

/-! ## Integers -/

/-- An integer, or the moment so many seconds from 1970. -/
def integerText (stamp : Bool) (n : Int64) : String := (if stamp then "@" else "") ++ showInt n.toInt

theorem inRange64_toInt (n : Int64) : InRange64 n.toInt := ⟨n.le_toInt, n.toInt_lt⟩

theorem isWhole_of_inRange64 {x : Binary64} {n : Int} (h : InRange64 n)
    (hx : ReadsWhole x (n < 0) (nearest n.natAbs)) : IsWhole x (n < 0) (nearest n.natAbs) := by
  rcases hx with hwhole | ⟨-, hbeyond⟩
  · exact hwhole
  · have hsize : n.natAbs ≤ bound63 := by
      unfold InRange64 at h
      omega
    have hround := nearest_mono hsize
    have hfits : nearest bound63 = bound63 := nearest_eq_self_iff.2 (fitsMantissa_two_pow 63)
    have hbound := bound63_lt_beyond
    omega

theorem sniff_of_number {s : String} {x : Binary64} (h : scalar? (trim s) .number = some x) :
    ∃ vs, sniff s = ⟨.number, x⟩ :: vs := by
  unfold sniff readings
  simp only [List.filterMap_cons, h, Option.map_some, List.cons.injEq, true_and]
  exact ⟨_, rfl⟩

/-- What is read as another kind than a number or a year is not read as anything else. -/
theorem sniff_eq_singleton {s : String} {v : Sample} (hv : v ∈ sniff s) (hnumber : v.reading ≠ .number)
    (hyear : v.reading ≠ .year) : sniff s = [v] := by
  obtain ⟨before, after, hs⟩ := List.append_of_mem hv
  have hpairs := sniff_pairwise s
  rw [hs, List.pairwise_append, List.pairwise_cons] at hpairs
  obtain ⟨-, ⟨hafter, -⟩, hbefore⟩ := hpairs
  have hnone : before = [] := List.eq_nil_iff_forall_not_mem.2 fun u hu => hyear (hbefore u hu v (.head _)).2
  have hlast : after = [] := List.eq_nil_iff_forall_not_mem.2 fun u hu => hnumber (hafter u hu).1
  rw [hs, hnone, hlast]
  rfl

theorem trim_stamp (n : Int) : trim ("@" ++ showInt n) = "@" ++ showInt n := by
  have hblank : ∀ c ∈ ("@" ++ showInt n).toList, isBlank c = false := by
    intro c hc
    rw [← Numeral.text_ofInt, String.toList_append, List.mem_append] at hc
    rcases hc with hat | hc
    · rw [List.mem_singleton.1 hat]
      rfl
    · exact Numeral.not_isBlank_of_mem_text _ hc
  exact trim_eq_self_iff.2
    { first := fun c hc => hblank c (List.mem_of_head? hc), last := fun c hc => hblank c (List.mem_of_getLast? hc) }

/-- The first thing that an integer is read as is its nearest number. -/
theorem sniff_integerText (stamp : Bool) (n : Int64) : ∃ x vs,
    sniff (integerText stamp n) = ⟨if stamp then .timestamp else .number, x⟩ :: vs ∧
      IsWhole x (n.toInt < 0) (nearest n.toInt.natAbs) := by
  have hrange := inRange64_toInt n
  cases stamp with
  | false =>
    have htext : integerText false n = (Numeral.ofInt n.toInt).text := by
      rw [Numeral.text_ofInt, integerText]
      simp
    obtain ⟨x, hread, hx⟩ := (Numeral.ofInt n.toInt).read?_text
    rw [Numeral.size_ofInt, Numeral.negative_ofInt] at hx
    have hwhole := isWhole_of_inRange64 hrange hx
    have hscalar : scalar? (Numeral.ofInt n.toInt).text .number = some x := by
      simp only [scalar?, Numeral.normalizeDecimal_text, Numeral.isNumeric_text, if_true, hread]
      exact Option.filter_some_pos hwhole.isFinite
    rw [← Numeral.trim_text] at hscalar
    obtain ⟨vs, hsniff⟩ := sniff_of_number hscalar
    exact ⟨x, vs, htext ▸ hsniff, hwhole⟩
  | true =>
    have hwhole := isWhole_of_inRange64 hrange (ofRatio_one (n.toInt < 0) n.toInt.natAbs)
    have hseconds : int64? (showInt n.toInt) = some n.toInt := by
      have hvalue : (Numeral.ofInt n.toInt).value = n.toInt := Numeral.value_ofInt _
      rw [← Numeral.text_ofInt, Numeral.int64?_text, hvalue, if_pos hrange]
    have hscalar : scalar? ("@" ++ showInt n.toInt) .timestamp = some (.ofInt n.toInt) := by
      have hlist : ("@" ++ showInt n.toInt).toList = ['@'] ++ (showInt n.toInt).toList := String.toList_append
      rw [scalar?, timestamp?, hlist, afterStart_append, Option.bind_some, String.ofList_toList, hseconds]
      rfl
    have hmem : (⟨.timestamp, .ofInt n.toInt⟩ : Sample) ∈ sniff ("@" ++ showInt n.toInt) := by
      rw [sniff, trim_stamp]
      exact List.mem_filterMap.2 ⟨.timestamp, by decide, by rw [hscalar]; rfl⟩
    have hkind : Reading.timestamp ≠ .number ∧ Reading.timestamp ≠ .year := by decide
    exact ⟨_, [], sniff_eq_singleton hmem hkind.1 hkind.2, hwhole⟩

theorem comparablePair_integerText (stamp : Bool) (a b : Int64) : ∃ x y,
    comparablePair (integerText stamp a) (integerText stamp b) = .ok (x, y) ∧
      x.le y = decide (nearestInt a.toInt ≤ nearestInt b.toInt) ∧
      y.le x = decide (nearestInt b.toInt ≤ nearestInt a.toInt) := by
  obtain ⟨x, vs, hvalues, hx⟩ := sniff_integerText stamp a
  obtain ⟨y, ls, hlimits, hy⟩ := sniff_integerText stamp b
  have hcomparable : ∀ r : Reading, r.comparable r = true := fun r => by simp [Reading.comparable]
  refine ⟨x, y, ?_, ?_, ?_⟩
  · rw [comparablePair_eq_ok_iff, hvalues, hlimits]
    simp [firstByValue, hcomparable]
  · rw [Bool.eq_iff_iff, hx.le_iff hy, decide_eq_true_iff]
    rfl
  · rw [Bool.eq_iff_iff, hy.le_iff hx, decide_eq_true_iff]
    rfl

theorem isUnset_integerText (stamp : Bool) (n : Int64) : isUnset (integerText stamp n) = false := by
  obtain ⟨x, vs, hvalues, -⟩ := sniff_integerText stamp n
  rw [← Bool.not_eq_true]
  intro hunset
  rw [sniff_of_isUnset hunset] at hvalues
  cases hvalues

theorem run_max_integerText (scope : Scope) (stamp : Bool) (a b : Int64) :
    (Evaluation.mk scope { test := .max, values := [integerText stamp b] } (.text (integerText stamp a))).run.value =
      if nearestInt a.toInt ≤ nearestInt b.toInt then .ok .accepted else .error (.tooGreat (integerText stamp b)) := by
  obtain ⟨x, y, hpair, hle, -⟩ := comparablePair_integerText stamp a b
  rw [value_run_max, isUnset_integerText, if_neg Bool.false_ne_true, Check.atMost, bound_eq, hpair, Except.bind, accept,
    hle]
  simp only [decide_eq_true_iff]

theorem run_min_integerText (scope : Scope) (stamp : Bool) (a b : Int64) :
    (Evaluation.mk scope { test := .min, values := [integerText stamp b] } (.text (integerText stamp a))).run.value =
      if nearestInt b.toInt ≤ nearestInt a.toInt then .ok .accepted else .error (.tooSmall (integerText stamp b)) := by
  obtain ⟨x, y, hpair, -, hge⟩ := comparablePair_integerText stamp a b
  rw [value_run_min, isUnset_integerText, if_neg Bool.false_ne_true, Check.atLeast, bound_eq, hpair, Except.bind, accept,
    hge]
  simp only [decide_eq_true_iff]

theorem Evaluation.accepts_iff_of_value {e : Evaluation} {p : Prop} [Decidable p] {fault : Fault}
    (h : e.run.value = if p then .ok .accepted else .error fault) : e.Accepts ↔ p := by
  rw [Evaluation.Accepts, h]
  by_cases hp : p <;> simp [hp]

/-- Both bounds follow the order of the integers. -/
def BoundsFollow (scope : Scope) (stamp : Bool) (a b : Int64) : Prop :=
  ((Evaluation.mk scope { test := .max, values := [integerText stamp b] } (.text (integerText stamp a))).Accepts ↔
      a ≤ b) ∧
    ((Evaluation.mk scope { test := .min, values := [integerText stamp b] } (.text (integerText stamp a))).Accepts ↔
      b ≤ a)

/-- The bounds follow the order of the nearest integers of 53 bits. This is the order of the integers themselves, but
that different ones with the same nearest count as equal. -/
theorem integer_bounds (scope : Scope) (stamp : Bool) (a b : Int64) :
    (Evaluation.mk scope { test := .max, values := [integerText stamp b] } (.text (integerText stamp a))).run.value =
        (if nearestInt a.toInt ≤ nearestInt b.toInt then .ok .accepted
        else .error (.tooGreat (integerText stamp b))) ∧
      (Evaluation.mk scope { test := .min, values := [integerText stamp b] } (.text (integerText stamp a))).run.value =
        (if nearestInt b.toInt ≤ nearestInt a.toInt then .ok .accepted
        else .error (.tooSmall (integerText stamp b))) ∧
      (BoundsFollow scope stamp a b ↔ a = b ∨ nearestInt a.toInt ≠ nearestInt b.toInt) := by
  have hmax := run_max_integerText scope stamp a b
  have hmin := run_min_integerText scope stamp a b
  refine ⟨hmax, hmin, ?_⟩
  rw [BoundsFollow, Evaluation.accepts_iff_of_value hmax, Evaluation.accepts_iff_of_value hmin,
    Int64.le_iff_toInt_le, Int64.le_iff_toInt_le, ← Int64.toInt_inj]
  have hup : a.toInt ≤ b.toInt → nearestInt a.toInt ≤ nearestInt b.toInt := nearestInt_mono
  have hdown : b.toInt ≤ a.toInt → nearestInt b.toInt ≤ nearestInt a.toInt := nearestInt_mono
  omega

/-- The bound 2^53 lets the integer above it pass, as a number and as a moment. -/
theorem integer_above_accepted :
    let scope : Scope := { collaborators := .mute }
    integerText false 9007199254740993 = "9007199254740993" ∧ integerText false 9007199254740992 = "9007199254740992" ∧
      (Evaluation.mk scope { test := .max, values := ["9007199254740992"] } (.text "9007199254740993")).run.value =
        .ok .accepted ∧
      ¬ BoundsFollow scope false 9007199254740993 9007199254740992 ∧
      (Evaluation.mk scope { test := .max, values := ["@9007199254740992"] } (.text "@9007199254740993")).run.value =
        .ok .accepted ∧
      ¬ BoundsFollow scope true 9007199254740993 9007199254740992 := by
  intro scope
  have hnumber : (Evaluation.mk scope { test := .max, values := ["9007199254740992"] }
      (.text "9007199254740993")).run.value = .ok .accepted := by decide +kernel
  have hstamp : (Evaluation.mk scope { test := .max, values := ["@9007199254740992"] }
      (.text "@9007199254740993")).run.value = .ok .accepted := by decide +kernel
  refine ⟨by decide +kernel, by decide +kernel, hnumber, ?_, hstamp, ?_⟩
  · rintro ⟨hfollow, -⟩
    exact absurd (hfollow.1 ⟨_, hnumber⟩) (by decide)
  · rintro ⟨hfollow, -⟩
    exact absurd (hfollow.1 ⟨_, hstamp⟩) (by decide)

end FieldRules
