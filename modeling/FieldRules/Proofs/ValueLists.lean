import FieldRules.Proofs.Arguments
import FieldRules.Proofs.IgnoreWord
import FieldRules.Rule.Nested
/-!
# Lists of values

The values that a document gives a test as a list are joined with a sign of their own, so that they may hold commas and
colons. A rule of one such test is read as that test with just these values, if none of them mentions the word that
turns rules off (`tokenize_values`).
-/

namespace FieldRules

open FieldRules.Text

/-! ## Texts around a sign -/

namespace Text

/-- Texts without outer blanks are joined to a text without outer blanks. -/
theorem trimmed_intercalate {sep : Char} {parts : List (List Char)} (h : ∀ p ∈ parts, p ≠ [] ∧ Trimmed p) :
    Trimmed ([sep].intercalate parts) := by
  induction parts with
  | nil => constructor <;> simp
  | cons p parts ih =>
    obtain ⟨⟨hne, hp⟩, hparts⟩ := List.forall_mem_cons.1 h
    cases parts with
    | nil => simpa using hp
    | cons q parts =>
      have hrest := ih hparts
      have hnil : [sep].intercalate (q :: parts) ≠ [] := by
        cases parts <;> simp [List.intercalate_cons_cons, (hparts q (.head _)).1]
      rw [List.intercalate_cons_cons, List.append_assoc]
      constructor
      · intro c hc
        rw [List.head?_append_of_ne_nil _ hne] at hc
        exact hp.first c hc
      · intro c hc
        rw [List.getLast?_append_of_ne_nil _ (by simp), List.getLast?_append_of_ne_nil _ hnil] at hc
        exact hrest.last c hc

end Text

/-! ## Joined values -/

/-- A text that may stand in a list of values. -/
structure ListEntry (v : String) : Prop where
  ne_empty : v ≠ ""
  trimmed : trim v = v
  no_semicolon : ';' ∉ v.toList
  no_bar : '|' ∉ v.toList
  no_unit : valueSeparator ∉ v.toList

theorem toList_joinValues (vs : List String) :
    (joinValues vs).toList = [valueSeparator].intercalate (vs.map String.toList) := by
  rw [joinValues, toList_join, String.toList_singleton]

theorem toList_joinValues_cons (v w : String) (vs : List String) : (joinValues (v :: w :: vs)).toList =
    v.toList ++ valueSeparator :: (joinValues (w :: vs)).toList := by
  simp [toList_joinValues, List.intercalate_cons_cons]

section
variable {vs : List String} (hne : vs ≠ []) (hvs : ∀ v ∈ vs, ListEntry v)
include hne hvs

theorem cellArgument_joinValues : CellArgument (joinValues vs) := by
  have hentry : ∀ cs ∈ vs.map String.toList, cs ≠ [] ∧ Trimmed cs ∧ ';' ∉ cs ∧ '|' ∉ cs := by
    rw [List.forall_mem_map]
    intro v hv
    have h := hvs v hv
    exact ⟨by simpa using h.ne_empty, trim_eq_self_iff.1 h.trimmed, h.no_semicolon, h.no_bar⟩
  constructor
  · obtain ⟨v, rest, rfl⟩ := List.exists_cons_of_ne_nil hne
    have hv : v ≠ "" := (hvs v (.head _)).ne_empty
    cases rest with
    | nil => simpa [joinValues] using hv
    | cons w rest =>
      rw [Ne, ← String.toList_inj, toList_joinValues_cons]
      simp
  · rw [trim_eq_self_iff, toList_joinValues]
    exact trimmed_intercalate fun cs hcs => ⟨(hentry cs hcs).1, (hentry cs hcs).2.1⟩
  · rw [toList_joinValues]
    exact not_mem_intercalate (by decide) fun cs hcs => (hentry cs hcs).2.2.1
  · rw [toList_joinValues]
    exact not_mem_intercalate (by decide) fun cs hcs => (hentry cs hcs).2.2.2

/-- Joined values are read back, if a single one holds no comma. -/
theorem splitValues_joinValues (hone : ∀ v, vs = [v] → ',' ∉ v.toList) : splitValues (joinValues vs) = vs := by
  have hpieces : pieces (if (joinValues vs).toList.contains valueSeparator then valueSeparator else ',')
      (joinValues vs) = vs := by
    -- Only two values or more have the sign between them; a single one is split at its commas.
    obtain ⟨v, rest, rfl⟩ := List.exists_cons_of_ne_nil hne
    cases rest with
    | nil =>
      have hunit := (hvs v (.head _)).no_unit
      simpa [joinValues, hunit] using pieces_of_not_mem (hone v rfl)
    | cons w rest =>
      have hunit : (joinValues (v :: w :: rest)).toList.contains valueSeparator = true := by
        rw [toList_joinValues_cons]
        simp
      rw [hunit, if_pos rfl, joinValues, pieces_join (fun x hx => (hvs x hx).no_unit) hne]
  have htrim : vs.map trim = vs := by
    conv_rhs => rw [← List.map_id vs]
    exact List.map_congr_left fun v hv => (hvs v hv).trimmed
  unfold splitValues
  simp only [hpieces, htrim]
  exact List.filter_eq_self.2 fun v hv => by simp [(hvs v hv).ne_empty]

/-- What stands before the first colon of joined values names modifiers only if that is in the first value. -/
theorem namesModifiers_joinValues {test : Test}
    (hfirst : ∀ v ∈ vs.head?, ∀ head tail, cutOnce ':' v = some (head, tail) → namesModifiers test head = false)
    {head tail : String} (h : cutOnce ':' (joinValues vs) = some (head, tail)) : namesModifiers test head = false := by
  obtain ⟨v, rest, rfl⟩ := List.exists_cons_of_ne_nil hne
  cases rest with
  | nil => exact hfirst v rfl head tail (by simpa [joinValues] using h)
  | cons w rest =>
    by_cases hunit : valueSeparator ∈ head.toList
    · exact namesModifiers_of_mem (.inl rfl) hunit
    · obtain ⟨⟨a, b⟩, hcut, he⟩ := Option.map_eq_some_iff.1 h
      cases he
      obtain ⟨c, hc, hjoin, hnone⟩ := cutAt_eq_some hcut
      obtain rfl : c = ':' := by simpa using hc
      rw [toList_joinValues_cons] at hjoin
      rw [String.toList_ofList] at hunit
      -- Without the sign in it the head ends within the first value.
      rcases List.append_eq_append_iff.1 hjoin with ⟨more, rfl, hmore⟩ | ⟨more, hv, hmore⟩
      · cases more with
        | nil => cases hmore
        | cons d more =>
          rw [(List.cons.inj hmore).1] at hunit
          exact absurd (List.mem_append_right _ (.head _)) hunit
      · cases more with
        | nil => cases hmore
        | cons d more =>
          rw [← (List.cons.inj hmore).1] at hv
          refine hfirst v rfl _ (String.ofList more) ?_
          rw [cutOnce, hv, cutAt_append hnone hc, Option.map_some]

end

/-! ## The rule of one list -/

theorem plainName_of_hasDirectValue {test : Test} (hdirect : test.hasDirectValue = true) (hregex : test ≠ .regex) :
    PlainName (asciiLower test.name) ∧ Test.ofName (asciiLower test.name) = test ∧
      isIndex (asciiLower test.name) = false := by
  cases test <;> first
    | exact absurd hdirect Bool.false_ne_true
    | exact absurd rfl hregex
    | exact ⟨⟨by decide, by decide, by decide⟩, by decide +kernel, by decide⟩

theorem ruleText_values {name : String} (hname : isIndex name = false) {vs : List String}
    (hcell : (trim (namedCell name (joinValues vs))).isEmpty = false) :
    ruleText (.object [(name, .array (vs.map .string))]) = namedCell name (joinValues vs) := by
  have htexts : (vs.map Json.string).filterMap argumentText? = vs := by
    rw [List.filterMap_map]
    exact List.filterMap_some
  have hcells : cells (.object [(name, .array (vs.map .string))]) = [namedCell name (joinValues vs)] := by
    simp [cells, entryCells, hname, testCell?, isFlag, htexts, namedCell]
  rw [ruleText, hcells, List.filter_singleton, hcell]
  simp

/-- A rule that gives one test a list of values is read as that test with these values, or as turned off if a value
mentions the word for it. The modifiers of the test must not stand before a colon in the first value, and a comma parts
a value that stands alone. -/
theorem tokenize_values {test : Test} (hdirect : test.hasDirectValue = true) (hregex : test ≠ .regex)
    {vs : List String} (hne : vs ≠ []) (hvs : ∀ v ∈ vs, ListEntry v) (hone : ∀ v, vs = [v] → ',' ∉ v.toList)
    (hfirst : ∀ v ∈ vs.head?, ∀ head tail, cutOnce ':' v = some (head, tail) → namesModifiers test head = false) :
    tokenize (ruleText (.object [(asciiLower test.name, .array (vs.map .string))])) =
      if vs.any mentionsIgnore then [{ test := .ignore }] else [{ test, values := vs }] := by
  obtain ⟨hname, htest, hindex⟩ := plainName_of_hasDirectValue hdirect hregex
  have hargument := cellArgument_joinValues hne hvs
  rw [ruleText_values hindex (isEmpty_trim_named hname hargument), tokenize_argument hname hargument htest hdirect
    fun head tail => namesModifiers_joinValues hne hvs hfirst, splitValues_joinValues hne hvs hone, joinValues,
    mentionsIgnore_join (not_isWord_of_wordGaps rfl)]

theorem tokenize_values_places :
    tokenize (ruleText (.object [("enum", .array [.string "York, UK", .string "a:b", .string "re:/x"])])) =
      [{ test := .enum, values := ["York, UK", "a:b", "re:/x"] }] := by
  have hentries : ∀ v ∈ ["York, UK", "a:b", "re:/x"], ListEntry v := by
    intro v hv
    simp only [List.mem_cons, List.not_mem_nil, or_false] at hv
    rcases hv with rfl | rfl | rfl <;> constructor <;> decide
  have hfirst : ∀ v ∈ ["York, UK", "a:b", "re:/x"].head?, ∀ head tail, cutOnce ':' v = some (head, tail) →
      namesModifiers .enum head = false := by
    rintro _ ⟨⟩ head tail h
    have hnone : cutOnce ':' "York, UK" = none := by decide
    rw [hnone] at h
    cases h
  have hname : asciiLower Test.enum.name = "enum" := by decide
  have hignore : ["York, UK", "a:b", "re:/x"].any mentionsIgnore = false := by decide +kernel
  have hdirect : Test.enum.hasDirectValue = true := rfl
  have hread := tokenize_values hdirect (by decide) (List.cons_ne_nil _ _) hentries (by simp) hfirst
  rwa [hname, hignore, if_neg Bool.false_ne_true] at hread

/-- The word that turns rules off does so as a value of a list, too. -/
theorem ignore_in_list : ListEntry "ignore" ∧
    tokenize (ruleText (.object [("enum", .array [.string "ignore"])])) = [{ test := .ignore }] := by
  have hentry : ListEntry "ignore" := by constructor <;> decide
  have hargument : CellArgument "ignore" := ⟨hentry.ne_empty, hentry.trimmed, hentry.no_semicolon, hentry.no_bar⟩
  have hname : PlainName "enum" := by constructor <;> decide
  have htext : ruleText (.object [("enum", .array [.string "ignore"])]) = namedCell "enum" "ignore" := by decide +kernel
  have hplain : ∀ head tail, cutOnce ':' "ignore" = some (head, tail) → namesModifiers .enum head = false := by
    intro head tail h
    have hnone : cutOnce ':' "ignore" = none := by decide
    rw [hnone] at h
    cases h
  have hignore : mentionsIgnore "ignore" = true := by decide +kernel
  rw [htext, tokenize_argument hname hargument (by decide +kernel) rfl hplain, hignore]
  exact ⟨hentry, rfl⟩

end FieldRules
