import FieldRules.Proofs.RoundTrip
import FieldRules.Rule.Nested
/-!
# Rules side by side

A list of rules is written as one text, with semicolons between the texts of its rules. A rule is read among others as
it is read by itself (`tokenize_array`), if none of its patterns runs on into the next rule and it does not leave it to
bars to separate its cells, which they do only in a rule without semicolons.
-/

namespace FieldRules

open FieldRules.Text

/-! ## The text of a list of rules -/

theorem itemCells_eq (rules : List Json) : itemCells rules = rules.flatMap cells := by
  induction rules with
  | nil => rfl
  | cons r rules ih => rw [itemCells, ih, List.flatMap_cons]

/-- The texts of rules, without the empty ones. -/
def ruleTexts (rules : List Json) : List String := (rules.map ruleText).filter fun s => !s.isEmpty

theorem join_eq_empty_iff {sep : String} {xs : List String} (h : ∀ x ∈ xs, x ≠ "") : join sep xs = "" ↔ xs = [] := by
  cases xs with
  | nil => simp
  | cons x xs =>
    have hx : x ≠ "" := h x (.head _)
    cases xs with
    | nil => simpa using hx
    | cons y ys =>
      rw [← String.toList_inj, toList_join, List.map_cons, List.map_cons, List.intercalate_cons_cons]
      simp [hx]

/-- Texts that are joined group by group are joined the same, if empty groups are left out. -/
theorem join_flatMap {α : Type} {sep : String} {f : α → List String} (h : ∀ a, ∀ x ∈ f a, x ≠ "") (as : List α) :
    join sep (as.flatMap f) = join sep ((as.map fun a => join sep (f a)).filter fun s => !s.isEmpty) := by
  induction as with
  | nil => rfl
  | cons a as ih =>
    rw [List.flatMap_cons, List.map_cons, List.filter_cons]
    by_cases ha : f a = []
    · rw [ha, join_nil, List.nil_append, ih]
      rfl
    · have hgroup : join sep (f a) ≠ "" := fun he => ha ((join_eq_empty_iff (h a)).1 he)
      rw [if_pos (by simpa using hgroup)]
      have hflat : ∀ x ∈ as.flatMap f, x ≠ "" := by
        rw [List.forall_mem_flatMap]
        exact fun b _ => h b
      have hkept : ∀ x ∈ (as.map fun a => join sep (f a)).filter fun s => !s.isEmpty, x ≠ "" := by
        intro x hx
        simpa using (List.mem_filter.1 hx).2
      -- Both sides join something behind the first group, or neither does.
      have hempty : join sep (as.flatMap f) = "" ↔ as.flatMap f = [] := join_eq_empty_iff hflat
      have hrest := hempty.symm.trans (ih ▸ join_eq_empty_iff hkept)
      by_cases hnil : as.flatMap f = []
      · rw [hrest.1 hnil, hnil, List.append_nil, join_singleton]
      · rw [join_append ha hnil, ih, ← List.singleton_append, join_append (by simp) (mt hrest.2 hnil), join_singleton]

theorem ruleText_array (rules : List Json) : ruleText (.array rules) = join ";" (ruleTexts rules) := by
  have hcells : ∀ r : Json, ∀ cell ∈ (cells r).filter fun cell => !(trim cell).isEmpty, cell ≠ "" := by
    rintro r cell hcell rfl
    cases (List.mem_filter.1 hcell).2
  rw [ruleText, cells, itemCells_eq, List.filter_flatMap, join_flatMap hcells]
  rfl

theorem flatMap_ruleTexts (rules : List Json) :
    (ruleTexts rules).flatMap tokenize = rules.flatMap fun r => tokenize (ruleText r) := by
  induction rules with
  | nil => rfl
  | cons r rules ih =>
    rw [ruleTexts] at ih ⊢
    rw [List.flatMap_cons, ← ih, List.map_cons, List.filter_cons]
    split
    · rfl
    · rename_i hempty
      have htext : ruleText r = "" := by simpa using hempty
      rw [htext, tokenize_empty, List.nil_append]

/-! ## Rules that keep their meaning -/

/-- A rule that may stand among others: if a bar stands outside of its patterns, so does a semicolon, and what stands
between its semicolons can be read by itself. -/
structure Composable (s : String) : Prop where
  separated : .char ';' ∈ PatternStash.outline s.toList ∨ .char '|' ∉ PatternStash.outline s.toList
  readable : ∀ piece ∈ (PatternStash.outline s.toList).splitOn (.char ';'), Readable piece

/-- Is each delimited pattern of a rule closed? -/
def PatternsClosed (s : String) : Prop := ∀ p ∈ Sign.patterns (PatternStash.outline s.toList), Pattern.Closed p

namespace Composable

/-- A rule that can be composed is read piece by piece between its semicolons. -/
theorem tokenize_eq {s : String} (h : Composable s) (hignore : mentionsIgnore s = false) :
    tokenize s = ((PatternStash.outline s.toList).splitOn (.char ';')).flatMap Sign.tokens := by
  refine tokenize_of_semicolons (mentionsIgnore_lift hignore) (List.splitOnP_ne_nil _ _) h.readable ?_
    (List.intercalate_splitOn _).symm h.separated
  intro p hp hmem
  have hnone := not_of_mem_splitOnP hp _ hmem
  simp at hnone

/-- Behind a semicolon the outline goes on as if the rule began there. -/
theorem outline_append {s : String} (h : Composable s) (hclosed : PatternsClosed s) (after : List Char) :
    PatternStash.outline (s.toList ++ ';' :: after) =
      PatternStash.outline s.toList ++ .char ';' :: PatternStash.outline after := by
  refine PatternStash.outline_append hclosed (fun p a b houtline => ?_) after
  -- A bar right behind a pattern would stand in one piece with it.
  have hin : [.pattern p, .char '|'] <:+: PatternStash.outline s.toList := ⟨a, b, by simp [houtline]⟩
  have hplain : ∀ sign ∈ [Sign.pattern p, .char '|'], (sign == .char ';') = false := by simp
  obtain ⟨piece, hpiece, before, after, hpart⟩ := exists_infix_splitOnP hplain hin
  exact (h.readable piece hpiece).ne_append (c := '|') rfl p before after (by simp [← hpart])

section
variable {parts : List String} (hne : parts ≠ []) (hparts : ∀ s ∈ parts, Composable s)
  (hclosed : ∀ s ∈ parts.dropLast, PatternsClosed s)
include hne hparts hclosed

theorem outline_join : PatternStash.outline (join ";" parts).toList =
    [.char ';'].intercalate (parts.map fun s => PatternStash.outline s.toList) := by
  induction parts with
  | nil => exact absurd rfl hne
  | cons s parts ih =>
    obtain ⟨hs, hparts⟩ := List.forall_mem_cons.1 hparts
    cases parts with
    | nil => simp
    | cons t parts =>
      obtain ⟨hsclosed, hclosed⟩ := List.forall_mem_cons.1 hclosed
      have hjoin : (join ";" (s :: t :: parts)).toList = s.toList ++ ';' :: (join ";" (t :: parts)).toList := by
        simp [List.intercalate_cons_cons]
      rw [hjoin, hs.outline_append hsclosed, ih (List.cons_ne_nil t parts) hparts hclosed]
      simp [List.intercalate_cons_cons]

theorem joined : Composable (join ";" parts) := by
  constructor
  · -- Two texts have a semicolon between them, which then parts the bars of both.
    obtain ⟨s, rest, rfl⟩ := List.exists_cons_of_ne_nil hne
    cases rest with
    | nil => simpa using (hparts s (.head _)).separated
    | cons t rest =>
      rw [outline_join hne hparts hclosed]
      simp [List.intercalate_cons_cons]
  · rw [outline_join hne hparts hclosed, splitOn_intercalate_eq_flatMap (by simpa using hne), List.flatMap_map,
      List.forall_mem_flatMap]
    exact fun s hs => (hparts s hs).readable

/-- Rules that can be composed are read one after the other. -/
theorem tokenize_joined (hignore : ∀ s ∈ parts, mentionsIgnore s = false) :
    tokenize (join ";" parts) = parts.flatMap tokenize := by
  have hjoined : mentionsIgnore (join ";" parts) = false := by
    rw [← singleton_semicolon, mentionsIgnore_join (not_isWord_of_wordGaps rfl), List.any_eq_false]
    exact fun s hs => by simp [hignore s hs]
  rw [(joined hne hparts hclosed).tokenize_eq hjoined, outline_join hne hparts hclosed,
    splitOn_intercalate_eq_flatMap (by simpa using hne), List.flatMap_map, List.flatMap_assoc]
  exact List.flatMap_congr fun s hs => ((hparts s hs).tokenize_eq (hignore s hs)).symm

end

end Composable

theorem DelimitedPattern.closed (p : DelimitedPattern) : Pattern.Closed p.text := by
  intro c cs hp _
  rw [p.toList_text] at hp
  cases hp
  exact p.not_escapesEach

/-- A rule that is written from cells can be composed, and its patterns are closed. -/
theorem composable_join_cells {cells : List Cell} (hne : cells ≠ []) :
    Composable (join ";" (cells.map Cell.text)) ∧ PatternsClosed (join ";" (cells.map Cell.text)) := by
  have hnone : ∀ p ∈ cells.map Cell.signs, .char ';' ∉ p := by
    simpa using fun cell _ => char_not_mem_signs (by rfl) cell
  have houtline : PatternStash.outline (join ";" (cells.map Cell.text)).toList =
      [.char ';'].intercalate (cells.map Cell.signs) := by
    rw [← singleton_semicolon]
    exact PatternStash.outline_join rfl hne
  refine ⟨⟨.inr ?_, ?_⟩, fun p hp => ?_⟩
  · rw [← singleton_semicolon]
    exact char_not_mem_outline_join hne rfl rfl (by decide)
  · rw [houtline, List.splitOn_intercalate _ hnone (by simpa using hne)]
    simpa using fun cell _ => readable_signs cell
  · by_contra hopen
    rw [houtline, Sign.mem_patterns] at hp
    refine not_mem_intercalate (by simp) (List.forall_mem_map.2 fun cell _ hmem => ?_) hp
    cases cell with
    | plain cell => simp [Cell.signs] at hmem
    | pattern cell =>
      obtain rfl : p = cell.pattern.text := by simpa [Cell.signs] using hmem
      exact hopen cell.pattern.closed

/-- Each rule of a list is read as it is by itself. Where two or more of them have a text, these must be rules that can
stand among others, and the patterns of all but the last must be closed. -/
theorem tokenize_array {rules : List Json} (hignore : ∀ r ∈ rules, mentionsIgnore (ruleText r) = false)
    (hparts : 2 ≤ (ruleTexts rules).length →
      (∀ s ∈ ruleTexts rules, Composable s) ∧ ∀ s ∈ (ruleTexts rules).dropLast, PatternsClosed s) :
    tokenize (ruleText (.array rules)) = rules.flatMap fun r => tokenize (ruleText r) := by
  rw [ruleText_array, ← flatMap_ruleTexts]
  have hnone : ∀ s ∈ ruleTexts rules, mentionsIgnore s = false := by
    intro s hs
    obtain ⟨r, hr, rfl⟩ := List.mem_map.1 (List.mem_filter.1 hs).1
    exact hignore r hr
  match hrules : ruleTexts rules with
  | [] => exact tokenize_empty
  | [s] => simp
  | s :: t :: parts =>
    rw [hrules] at hparts hnone
    obtain ⟨hcomposable, hclosed⟩ := hparts (by simp)
    exact Composable.tokenize_joined (List.cons_ne_nil _ _) hcomposable hclosed hnone

/-- A list of rules, one of them without a text. -/
def codeRules : List Json :=
  [.string "regex:~^a;b|c$~m;maxl:12", .null, .array [.string "required", .string "email"]]

/-- The cells of the first rule of the list. -/
def codeCells : List Cell :=
  [.pattern ⟨"regex", ⟨'~', "^a;b|c$".toList, ['m'], by decide, by decide, by decide, by decide⟩, by decide⟩,
    .plain ⟨"maxl:12", by decide, by decide, by decide, by decide, by decide +kernel, by decide⟩]

/-- The cells of the last rule of the list. -/
def mailCells : List Cell :=
  [.plain ⟨"required", by decide, by decide, by decide, by decide, by decide +kernel, by decide⟩,
    .plain ⟨"email", by decide, by decide, by decide, by decide, by decide +kernel, by decide⟩]

theorem tokenize_array_codes : tokenize (ruleText (.array codeRules)) =
    tokenize "regex:~^a;b|c$~m;maxl:12" ++ tokenize "required;email" := by
  have hcells : codeCells ≠ [] ∧ mailCells ≠ [] := ⟨List.cons_ne_nil _ _, List.cons_ne_nil _ _⟩
  have hcode := composable_join_cells hcells.1
  have hmail := composable_join_cells hcells.2
  have htexts : join ";" (codeCells.map Cell.text) = "regex:~^a;b|c$~m;maxl:12" ∧
      join ";" (mailCells.map Cell.text) = "required;email" ∧
      ruleTexts codeRules = ["regex:~^a;b|c$~m;maxl:12", "required;email"] := by decide +kernel
  rw [htexts.1] at hcode
  rw [htexts.2.1] at hmail
  have hignore : ∀ r ∈ codeRules, mentionsIgnore (ruleText r) = false := by
    have hascii : ∀ r ∈ codeRules, (ruleText r).toList.all (fun c => c.toNat < 128) = true := by decide
    intro r hr
    rw [mentionsIgnore_of_ascii (hascii r hr)]
    revert r
    decide
  have hparts : (∀ s ∈ ruleTexts codeRules, Composable s) ∧ ∀ s ∈ (ruleTexts codeRules).dropLast, PatternsClosed s := by
    rw [htexts.2.2]
    exact ⟨by simp [hcode.1, hmail.1], by simp [hcode.2]⟩
  rw [tokenize_array hignore fun _ => hparts, ← flatMap_ruleTexts, htexts.2.2]
  simp

/-- A bar separates the cells of a rule by itself, and does not beside a rule that brings in a semicolon. -/
theorem bar_beside_rule :
    (∀ r ∈ [Json.string "required|email", .string "string"], mentionsIgnore (ruleText r) = false) ∧
    tokenize (ruleText (.array [.string "required|email", .string "string"])) =
      [{ test := .unknown "Required|email" }, { test := .string }] ∧
    tokenize (ruleText (.string "required|email")) ++ tokenize (ruleText (.string "string")) =
      [{ test := .required }, { test := .email }, { test := .string }] := by
  have htext : ruleText (.array [.string "required|email", .string "string"]) = "required|email;string" ∧
      ruleText (.string "required|email") = "required|email" ∧ ruleText (.string "string") = "string" := by
    decide +kernel
  rw [htext.1, htext.2.1, htext.2.2]
  refine ⟨by decide +kernel, ?_, ?_⟩
  · rw [tokenize_of_ascii (by decide) (by decide)]
    decide
  · rw [tokenize_of_ascii (by decide) (by decide), tokenize_of_ascii (by decide) (by decide)]
    decide

end FieldRules
