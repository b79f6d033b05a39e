import FieldRules.Proofs.Asking
import FieldRules.Proofs.Membership
import Mathlib.Data.Finset.Sort
import Mathlib.Data.String.Basic
/-!
# Where a telephone number is looked for

A telephone number is read as one of a region, and a check tries region after region. Which ones it tries is settled
before the first reading (`Check.searchedRegions`): those of the rule, else the known ones that the call prefers or the
settings list, else all that are known. Both the settings and the readings are searched in the same way
(`Traced.search`), each up to the first answer. `Check.tel_searches` says what a check asks and what it makes of the
answers.
-/

namespace FieldRules

open FieldRules.Text

/-! ## Searching -/

namespace Traced

section
variable {α β : Type}

theorem call_bind (c : Call) (a : α) (f : α → Traced β) :
    (Traced.call c a >>= f) = ⟨c :: (f a).calls, (f a).value⟩ := rfl

variable (call : α → Call) (answer : α → Option β)

/-- Makes one call after another up to the first that has an answer. -/
def search (as : List α) : Traced (Option β) :=
  ⟨(as.take (as.findIdx (fun a => (answer a).isSome) + 1)).map call, as.findSome? answer⟩

theorem value_search (as : List α) : (search call answer as).value = as.findSome? answer := rfl

theorem search_cons_of_some {a : α} {b : β} (h : answer a = some b) (as : List α) :
    search call answer (a :: as) = .call (call a) (some b) := by
  simp [search, List.findIdx_cons, h, Traced.call]

theorem search_cons_of_none {a : α} (h : answer a = none) (as : List α) : search call answer (a :: as) =
    ⟨call a :: (search call answer as).calls, (search call answer as).value⟩ := by
  simp [search, List.findIdx_cons, h]

/-- What makes a call, and goes on just if it has no answer, is a search. -/
theorem eq_search {find : List α → Traced (Option β)} (hnil : find [] = .silent none)
    (hcons : ∀ a as, find (a :: as) = match answer a with
      | some b => .call (call a) (some b)
      | none => ⟨call a :: (find as).calls, (find as).value⟩) (as : List α) : find as = search call answer as := by
  induction as with
  | nil => exact hnil
  | cons a as ih =>
    rw [hcons]
    cases ha : answer a with
    | none => rw [search_cons_of_none _ _ ha, ← ih]
    | some b => rw [search_cons_of_some _ _ ha]

end

end Traced

namespace Collaborators

/-- The value of a setting that is not blank. -/
def setting? (config : String → Option String) (key : String) : Option String :=
  (config key).filter fun value => !(trim value).isEmpty

/-- The reading of a number as one of a region, if it is valid. -/
def reading? (c : Collaborators) (number : String) (region : Option String) : Option Phone :=
  (c.parsePhone number region).filter (·.valid)

/-- The settings are searched for the first value that is not blank. -/
theorem firstOf_eq (config : String → Option String) (keys : List String) :
    firstOf config keys = Traced.search .config (setting? config) keys := by
  refine Traced.eq_search _ _ rfl (fun key keys => ?_) keys
  rw [firstOf, Traced.call_bind, setting?]
  cases config key with
  | none => rfl
  | some value =>
    rw [Option.filter_some]
    dsimp only
    cases (trim value).isEmpty <;> rfl

theorem exists_reading_iff (c : Collaborators) (number : String) (tries : List (Option String)) :
    (∃ phone, tries.findSome? (c.reading? number) = some phone) ↔
      ∃ region ∈ tries, ∃ phone, c.parsePhone number region = some phone ∧ phone.valid = true := by
  rw [← Option.isSome_iff_exists, List.findSome?_isSome_iff]
  simp [reading?, Option.any_eq_true]

end Collaborators

namespace Check

/-- The regions are searched for the first valid reading. -/
theorem firstValid_eq (c : Collaborators) (number : String) (regions : List (Option String)) :
    firstValid c number regions = Traced.search (.phone number) (c.reading? number) regions := by
  refine Traced.eq_search _ _ rfl (fun region regions => ?_) regions
  rw [firstValid, Traced.call_bind, Collaborators.reading?]
  cases c.parsePhone number region with
  | none => rfl
  | some phone =>
    rw [Option.filter_some]
    dsimp only
    cases phone.valid <;> rfl

/-! ## Regions -/

section
variable (scope : Scope)

/-- The regions that the settings list, under the first key whose value is not blank. -/
def settingRegions : List String :=
  ((regionKeys.findSome? (Collaborators.setting? scope.collaborators.config)).map regionList).getD []

/-- The regions that a call prefers, or without any those that the settings list. -/
def preference : List String :=
  if scope.telRegions = [] then settingRegions scope else scope.telRegions.map asciiUpper

/-- The regions where a number is looked for if the known ones are these: those of the rule, else the known ones of the
preference, else all that are known. -/
def searchedRegions (known : Finset String) (t : Token) : List String :=
  if t.values ≠ [] then t.values.map asciiUpper
  else
    let usable := (preference scope).filter (· ∈ known)
    if usable = [] then known.sort (· ≤ ·) else usable

/-- The settings that are looked up before: some just if neither the rule nor the call names a region. -/
def settingCalls (t : Token) : List Call :=
  if t.values = [] ∧ scope.telRegions = [] then
    (Traced.search .config (Collaborators.setting? scope.collaborators.config) regionKeys).calls
  else []

theorem outcome_preferredRegions : (preferredRegions scope).outcome =
    ⟨if scope.telRegions = [] then
        (Traced.search .config (Collaborators.setting? scope.collaborators.config) regionKeys).calls
      else [], .ok (preference scope)⟩ := by
  unfold preferredRegions preference
  cases scope.telRegions with
  | cons region regions => rfl
  | nil =>
    simp only [List.isEmpty_nil, if_true]
    rw [outcome_lift_bind, Collaborators.firstOf_eq, settingRegions, ← Traced.value_search]
    cases (Traced.search .config (Collaborators.setting? scope.collaborators.config) regionKeys).value <;>
      simp [outcome_pure, Traced.silent]

variable {scope}
variable {known : Finset String} (hknown : scope.collaborators.phoneRegions = known.sort (· ≤ ·)) {t : Token}
include hknown

theorem outcome_regions_of_unknown {r : String} (h : (t.values.map asciiUpper).find? (· ∉ known) = some r) :
    (regions scope t).outcome = .silent (.error (.unsupportedRegion r)) := by
  have hvalues : t.values.isEmpty = false := by
    cases ht : t.values with
    | nil => simp [ht] at h
    | cons value values => rfl
  have hfind : (t.values.map asciiUpper).find? (fun r => !(known.sort (· ≤ ·)).contains r) = some r := by
    simpa using h
  simp only [regions, hknown, hvalues, Bool.false_eq_true, if_false, hfind]
  rfl

theorem outcome_regions (h : ∀ r ∈ t.values.map asciiUpper, r ∈ known) :
    (regions scope t).outcome = ⟨settingCalls scope t, .ok (searchedRegions scope known t)⟩ := by
  have hcontains : (known.sort (· ≤ ·)).contains = fun r => decide (r ∈ known) := by
    funext r
    simp
  unfold regions settingCalls searchedRegions
  cases hvalues : t.values with
  | nil =>
    simp only [hknown, hcontains, List.isEmpty_nil, if_true, ne_eq, not_true, if_false, true_and]
    rw [outcome_bind_of_ok (outcome_preferredRegions scope), outcome_pure]
    simp [Traced.silent]
  | cons value values =>
    have hfind : ((value :: values).map asciiUpper).find? (fun r => !(known.sort (· ≤ ·)).contains r) = none := by
      rw [List.find?_eq_none]
      intro r hr
      simp [h r (hvalues ▸ hr)]
    simp only [hknown, List.isEmpty_cons, Bool.false_eq_true, if_false, hfind]
    simp [outcome_pure, Traced.silent]

/-! ## The check -/

theorem outcome_tel (h : ∀ r ∈ t.values.map asciiUpper, r ∈ known) (v : String) :
    let found := Traced.search (.phone (trim v)) (scope.collaborators.reading? (trim v))
      (attempts (trim v) (searchedRegions scope known t))
    (tel scope t (.text v)).outcome = ⟨settingCalls scope t ++ found.calls,
      match found.value with
      | some phone => .ok (if phone.international = trim v then .accepted else .replaced phone.international)
      | none => .error .notPhone⟩ := by
  intro found
  rw [tel, outcome_bind_of_ok (outcome_regions hknown h)]
  simp only [trimmedText, Subject.text?, ofExcept_ok_bind, outcome_lift_bind, firstValid_eq]
  change Traced.mk (_ ++ (found.calls ++ _)) _ = _
  cases found.value <;> simp [outcome_pure, outcome_throw, Traced.silent]

/-- Where a telephone number is looked for, if the library knows these regions. A token that names a region that is not
known fails with the first such region, and nothing is read. Otherwise the number, without its outer blanks, is read
as an international one, if it begins with a plus sign, and then as one of the searched regions in their order, up to
the first valid reading; before that, settings are looked up just if neither the token nor the call names a region. The
check succeeds just if one of the readings is valid: it leaves a number that is in the international format of the first
valid reading, and puts that format in the place of any other. -/
theorem tel_searches (ht : t.test = .tel) (hm : t.modifiers = []) {v : String} (hv : isUnset v = false) :
    let check := (evaluate scope t (.text v)).outcome
    let named := t.values.map asciiUpper
    (∀ r, named.find? (· ∉ known) = some r → check = .silent (.error (.unsupportedRegion r))) ∧
    ((∀ r ∈ named, r ∈ known) →
      let number := trim v
      let tries := (if number.toList.head? = some '+' then [none] else []) ++ (searchedRegions scope known t).map some
      let found := Traced.search (.phone number) (scope.collaborators.reading? number) tries
      check.calls = settingCalls scope t ++ found.calls ∧
      ((∃ outcome, check.value = .ok outcome) ↔
        ∃ region ∈ tries, ∃ phone, scope.collaborators.parsePhone number region = some phone ∧ phone.valid = true) ∧
      (∀ phone, found.value = some phone → check.value =
        .ok (if phone.international = number then .accepted else .replaced phone.international)) ∧
      (found.value = none → check.value = .error .notPhone)) := by
  intro check named
  have hcheck : check = (tel scope t (.text v)).outcome := by
    have hunsupported : t.unsupported? = none := by simp [Token.unsupported?, hm]
    have hset : (Subject.text v).isUnset = false := hv
    simp only [check, evaluate_of_supported hunsupported, hset, Bool.and_false, Bool.false_eq_true, if_false, judge, ht]
  refine ⟨fun r hr => ?_, fun hnamed => ?_⟩
  · rw [hcheck, tel, outcome_bind_of_error (outcome_regions_of_unknown hknown hr)]
    rfl
  · intro number tries found
    have hfound : check = ⟨settingCalls scope t ++ found.calls,
        match found.value with
        | some phone => .ok (if phone.international = number then .accepted else .replaced phone.international)
        | none => .error .notPhone⟩ := by
      rw [hcheck, outcome_tel hknown hnamed]
      simp [found, tries, number, attempts]
    rw [hfound]
    refine ⟨rfl, ?_, fun phone h => ?_, fun h => ?_⟩
    · rw [← Collaborators.exists_reading_iff, ← Traced.value_search (.phone number)]
      change _ ↔ ∃ phone, found.value = some phone
      cases found.value <;> simp
    · simp only [h]
    · simp only [h]

end

theorem tel_searches_berlin :
    let known : Finset String := {"AT", "DE"}
    let world : Collaborators := { Collaborators.mute with
      parsePhone := fun number region =>
        if number = "030 1" ∧ region = some "DE" then some { valid := true, international := "+49 30 1" } else none
      phoneRegions := known.sort (· ≤ ·)
      config := fun key => if key = "TEL_REGIONS" then some "at, xx, de" else none }
    let check := (evaluate { collaborators := world } { test := .tel } (.text " 030 1")).outcome
    check.calls = [.config "RULEFORM_TEL_REGIONS", .config "TEL_REGIONS", .phone "030 1" (some "AT"),
      .phone "030 1" (some "DE")] ∧ check.value = .ok (.replaced "+49 30 1") := by
  intro known world check
  have hv : isUnset " 030 1" = false := by decide
  obtain ⟨-, h⟩ := @tel_searches { collaborators := world } known rfl { test := .tel } rfl rfl " 030 1" hv
  obtain ⟨hcalls, -, hvalue, -⟩ := h (List.forall_mem_nil _)
  refine ⟨hcalls.trans ?_, hvalue { valid := true, international := "+49 30 1" } ?_⟩ <;> decide +kernel

/-- Blanks before the plus sign of a number do not keep it from being read as an international one. -/
theorem plus_behind_blank :
    let world : Collaborators := { Collaborators.mute with
      parsePhone := fun number region =>
        if number = "+4930" ∧ region = none then some { valid := true, international := "+49 30" } else none
      phoneRegions := ["DE"] }
    let scope : Scope := { collaborators := world, telRegions := ["DE"] }
    let check := (evaluate scope { test := .tel } (.text " +4930")).outcome
    " +4930".toList.head? ≠ some '+' ∧ check.calls = [.phone "+4930" none] ∧ check.value = .ok (.replaced "+49 30") := by
  decide +kernel

end Check

end FieldRules
