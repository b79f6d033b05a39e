import FieldRules.Proofs.CleanText
/-!
# Stripping by position

Stripping goes over a text by positions, again and again until nothing changes. A scan is told here step by step, and a
read behind the end of the text is a fault. No step is one, and each brings the scan nearer to its end (`step_spec`), so
that a scan deletes what `stripOnce` deletes (`pass_eq`) and stripping ends after few of them (`rounds_eq`). What it
leaves is a part of the text in which no `<` opens markup; a text of that kind stays as it is (`strip_inert`).
-/

namespace FieldRules.Markup

open FieldRules.Text

/-! ## Texts in which nothing opens markup -/

/-- No `<` opens markup: none stands before a letter, a slash, an exclamation mark or a question mark. -/
def Inert (cs : List Char) : Prop :=
  ∀ c, ['<', c] <:+: cs → ¬ (isAsciiLetter c = true ∨ c = '/' ∨ c = '!' ∨ c = '?')

theorem opensMarkup_iff {c : Char} :
    opensMarkup c = true ↔ isAsciiLetter c = true ∨ c = '/' ∨ c = '!' ∨ c = '?' := by
  simp [opensMarkup, or_assoc]

theorem Inert.of_isInfix {xs cs : List Char} (h : Inert cs) (hxs : xs <:+: cs) : Inert xs := by
  intro c hc
  exact h c (hc.trans hxs)

theorem Inert.head_not_opens {cs : List Char} (h : Inert ('<' :: cs)) : cs.head?.any opensMarkup = false := by
  cases cs with
  | nil => rfl
  | cons c cs =>
    have hc := h c (List.prefix_append ['<', c] cs).isInfix
    rw [← opensMarkup_iff] at hc
    simpa using hc

/-- Such texts are just those that a scan leaves as they are. -/
theorem stripOnce_eq_self_iff {cs : List Char} : stripOnce cs = cs ↔ Inert cs := by
  constructor
  · intro h c hc
    rw [← opensMarkup_iff, opensMarkup_of_stripOnce_eq h hc]
    exact Bool.false_ne_true
  · intro h
    induction cs with
    | nil => rw [stripOnce]
    | cons c cs ih =>
      have hkeep : (c != '<' || !cs.head?.any opensMarkup) = true := by
        by_cases hc : c = '<'
        · subst hc
          simp [h.head_not_opens]
        · simp [hc]
      rw [stripOnce, if_pos hkeep, ih (h.of_isInfix (List.suffix_cons c cs).isInfix)]

theorem stripChars_eq_self_iff {cs : List Char} : stripChars cs = cs ↔ Inert cs := by
  rw [← stripOnce_eq_self_iff]
  constructor
  · intro h
    rw [← h, stripOnce_stripChars]
  · intro h
    rw [stripChars, if_pos h]

theorem inert_stripChars (cs : List Char) : Inert (stripChars cs) :=
  stripOnce_eq_self_iff.1 (stripOnce_stripChars cs)

/-! ## Steps of a scan -/

/-- A comment goes on where its end does not stand. -/
theorem afterComment_cons {c : Char} {cs : List Char} (h : ¬ ['-', '-', '>'] <+: c :: cs) :
    afterComment (c :: cs) = afterComment cs := by
  rw [afterComment]
  rintro tail rfl rfl
  exact h (List.prefix_append ['-', '-', '>'] tail)

theorem stripOnce_cons (c : Char) (cs : List Char) : stripOnce (c :: cs) =
    if c = '<' ∧ cs.head?.any opensMarkup = true then
      if ['!', '-', '-'] <+: cs then stripOnce (afterComment (cs.drop 3)) else stripOnce (afterTag none cs)
    else c :: stripOnce cs := by
  rw [stripOnce]
  by_cases hopen : c = '<' ∧ cs.head?.any opensMarkup = true
  · simp [hopen]
  · rw [if_neg hopen, if_pos]
    rcases not_and_or.1 hopen with h | h <;> simp [h]

/-- What a scan is in the midst of. -/
inductive Scan.Inside where
  | text
  | comment
  | tag (quote : Option Char)

/-- Where a scan stands, and what it has kept so far. -/
structure Scan where
  inside : Scan.Inside := .text
  position : Nat := 0
  kept : List Char := []

/-- What stands from a position on. A position behind the end is none to read from. -/
def sliceFrom? (cs : List Char) (i : Nat) : Option (List Char) := if i ≤ cs.length then some (cs.drop i) else none

namespace Scan

/-- One step of a scan, or `none` if it reads behind the end of the text. A scan that is done goes nowhere. -/
def step (cs : List Char) (s : Scan) : Option (Option Scan) :=
  match s.inside with
  | .text =>
    if s.position < cs.length then do
      let c ← cs[s.position]?
      if c != '<' || !cs[s.position + 1]?.any opensMarkup then
        return some { s with position := s.position + 1, kept := s.kept ++ [c] }
      let ahead ← sliceFrom? cs (s.position + 1)
      if ['!', '-', '-'].isPrefixOf ahead then
        return some { s with inside := .comment, position := s.position + 4 }
      return some { s with inside := .tag none, position := s.position + 1 }
    else return none
  | .comment =>
    if s.position < cs.length then do
      let ahead ← sliceFrom? cs s.position
      if ['-', '-', '>'].isPrefixOf ahead then
        return some { s with inside := .text, position := min (s.position + 3) cs.length }
      return some { s with position := s.position + 1 }
    else return some { s with inside := .text, position := min (s.position + 3) cs.length }
  | .tag quote =>
    if s.position < cs.length then do
      let c ← cs[s.position]?
      match quote with
      | some q => return some { s with inside := .tag (if c == q then none else quote), position := s.position + 1 }
      | none =>
        if c == '>' then return some { s with inside := .text, position := s.position + 1 }
        return some { s with
          inside := .tag (if c == '\x22' || c == '\x27' then some c else none), position := s.position + 1 }
    else return some { s with inside := .text }

/-- What is still kept of the characters ahead. -/
def Inside.rest : Inside → List Char → List Char
  | .text, cs => stripOnce cs
  | .comment, cs => stripOnce (afterComment cs)
  | .tag quote, cs => stripOnce (afterTag quote cs)

/-- A scan stands within the text, and will have kept what is to be kept. -/
structure Sound (cs : List Char) (s : Scan) : Prop where
  position_le : s.position ≤ cs.length
  kept_eq : s.kept ++ s.inside.rest (cs.drop s.position) = stripOnce cs

/-- A bound on the steps that are left: one for each character ahead, and one out of a tag or comment that the end of
the text cuts off. -/
def left (cs : List Char) (s : Scan) : Nat :=
  2 * (cs.length - s.position) + match s.inside with
    | .text => 0
    | _ => 1

/-- A step is no fault, and either ends the scan with what `stripOnce` keeps, or brings it nearer to the end. -/
def StepsOn (cs : List Char) (s : Scan) : Prop :=
  (step cs s = some none ∧ s.kept = stripOnce cs) ∨
    ∃ s', step cs s = some (some s') ∧ Sound cs s' ∧ s'.left cs < s.left cs

section
variable {cs kept : List Char} {i : Nat}

theorem stepsOn_text (h : Sound cs ⟨.text, i, kept⟩) : StepsOn cs ⟨.text, i, kept⟩ := by
  obtain ⟨-, hkept⟩ := h
  by_cases hi : i < cs.length
  · right
    have hdrop : cs.drop i = cs[i] :: cs.drop (i + 1) := List.drop_eq_getElem_cons hi
    have hnext : (cs.drop (i + 1)).head? = cs[i + 1]? := List.head?_drop
    have hslice : sliceFrom? cs (i + 1) = some (cs.drop (i + 1)) := if_pos hi
    simp only [Inside.rest] at hkept
    rw [hdrop, stripOnce_cons, hnext] at hkept
    by_cases hopen : cs[i] = '<' ∧ cs[i + 1]?.any opensMarkup = true
    · rw [if_pos hopen] at hkept
      by_cases hcomment : ['!', '-', '-'] <+: cs.drop (i + 1)
      · have hlength : i + 4 ≤ cs.length := by
          have hle := hcomment.length_le
          simp only [List.length_cons, List.length_nil, List.length_drop] at hle
          omega
        refine ⟨⟨.comment, i + 4, kept⟩, ?_, ⟨hlength, ?_⟩, ?_⟩
        · simp [step, hi, hopen, hslice, hcomment]
        · rw [if_pos hcomment, List.drop_drop] at hkept
          exact hkept
        · simp only [left]
          omega
      · refine ⟨⟨.tag none, i + 1, kept⟩, ?_, ⟨hi, ?_⟩, ?_⟩
        · simp [step, hi, hopen, hslice, hcomment]
        · rw [if_neg hcomment] at hkept
          exact hkept
        · simp only [left]
          omega
    · refine ⟨⟨.text, i + 1, kept ++ [cs[i]]⟩, ?_, ⟨hi, ?_⟩, ?_⟩
      · rcases not_and_or.1 hopen with h | h <;> simp [step, hi, h]
      · rw [if_neg hopen] at hkept
        simpa [Inside.rest] using hkept
      · simp only [left]
        omega
  · left
    have hnil : cs.drop i = [] := List.drop_eq_nil_of_le (by omega)
    constructor
    · simp [step, hi]
    · simpa [Inside.rest, hnil, stripOnce] using hkept

theorem stepsOn_comment (h : Sound cs ⟨.comment, i, kept⟩) : StepsOn cs ⟨.comment, i, kept⟩ := by
  obtain ⟨hle, hkept⟩ := h
  right
  simp only [Inside.rest] at hle hkept
  by_cases hi : i < cs.length
  · have hslice : sliceFrom? cs i = some (cs.drop i) := if_pos hle
    by_cases hend : ['-', '-', '>'] <+: cs.drop i
    · obtain ⟨tail, htail⟩ := id hend
      have hlength : i + 3 ≤ cs.length := by
        have hl := congrArg List.length htail
        simp only [List.length_append, List.length_cons, List.length_nil, List.length_drop] at hl
        omega
      have hmin : min (i + 3) cs.length = i + 3 := Nat.min_eq_left hlength
      refine ⟨⟨.text, i + 3, kept⟩, ?_, ⟨hlength, ?_⟩, ?_⟩
      · simp [step, hi, hslice, hend, hmin]
      · have hdrop : cs.drop (i + 3) = tail := by
          rw [← List.drop_drop, ← htail]
          rfl
        rw [← htail] at hkept
        rw [hdrop]
        exact hkept
      · simp only [left]
        omega
    · have hdrop : cs.drop i = cs[i] :: cs.drop (i + 1) := List.drop_eq_getElem_cons hi
      refine ⟨⟨.comment, i + 1, kept⟩, ?_, ⟨hi, ?_⟩, ?_⟩
      · simp [step, hi, hslice, hend]
      · rw [hdrop] at hkept hend
        rwa [afterComment_cons hend] at hkept
      · simp only [left]
        omega
  · have hmin : min (i + 3) cs.length = cs.length := by omega
    have hnil : cs.drop i = [] := List.drop_eq_nil_of_le (by omega)
    refine ⟨⟨.text, cs.length, kept⟩, ?_, ⟨Nat.le_refl _, ?_⟩, ?_⟩
    · simp [step, hi, hmin]
    · simpa [Inside.rest, hnil, afterComment] using hkept
    · simp only [left]
      omega

theorem stepsOn_tag {quote : Option Char} (h : Sound cs ⟨.tag quote, i, kept⟩) : StepsOn cs ⟨.tag quote, i, kept⟩ := by
  obtain ⟨hle, hkept⟩ := h
  right
  simp only [Inside.rest] at hle hkept
  by_cases hi : i < cs.length
  · have hdrop : cs.drop i = cs[i] :: cs.drop (i + 1) := List.drop_eq_getElem_cons hi
    rw [hdrop] at hkept
    cases quote with
    | some q =>
      refine ⟨⟨.tag (if cs[i] == q then none else some q), i + 1, kept⟩, ?_, ⟨hi, hkept⟩, ?_⟩
      · simp [step, hi]
      · simp only [left]
        omega
    | none =>
      by_cases hclose : cs[i] = '>'
      · refine ⟨⟨.text, i + 1, kept⟩, ?_, ⟨hi, ?_⟩, ?_⟩
        · simp [step, hi, hclose]
        · rw [hclose] at hkept
          exact hkept
        · simp only [left]
          omega
      · refine ⟨⟨.tag (if cs[i] == '\x22' || cs[i] == '\x27' then some cs[i] else none), i + 1, kept⟩, ?_, ⟨hi, ?_⟩, ?_⟩
        · simp [step, hi, hclose]
        · rw [afterTag, if_neg (by simpa using hclose)] at hkept
          exact hkept
        · simp only [left]
          omega
  · have hnil : cs.drop i = [] := List.drop_eq_nil_of_le (by omega)
    refine ⟨⟨.text, i, kept⟩, ?_, ⟨hle, ?_⟩, ?_⟩
    · simp [step, hi]
    · simpa [Inside.rest, hnil, afterTag] using hkept
    · simp [left]

end

theorem step_spec {cs : List Char} {s : Scan} (h : Sound cs s) : StepsOn cs s := by
  obtain ⟨inside, i, kept⟩ := s
  cases inside with
  | text => exact stepsOn_text h
  | comment => exact stepsOn_comment h
  | tag quote => exact stepsOn_tag h

/-- A scan of at most so many steps, or `none` if one is a fault or they are too few. -/
def run (cs : List Char) : Nat → Scan → Option (List Char)
  | 0, _ => none
  | n + 1, s =>
    match step cs s with
    | none => none
    | some none => some s.kept
    | some (some s) => run cs n s

/-- A scan runs to its end, and keeps what `stripOnce` keeps. -/
theorem run_eq {cs : List Char} {s : Scan} (h : Sound cs s) {n : Nat} (hn : s.left cs < n) :
    run cs n s = some (stripOnce cs) := by
  induction n generalizing s with
  | zero => omega
  | succ n ih =>
    rcases step_spec h with ⟨hstep, hkept⟩ | ⟨s', hstep, hsound, hleft⟩
    · simp [run, hstep, hkept]
    · simp only [run, hstep]
      exact ih hsound (by omega)

end Scan

/-! ## Scan after scan -/

/-- One scan of a text from its beginning, in at most two steps for each character and one more. -/
def pass (cs : List Char) : Option (List Char) := Scan.run cs (2 * cs.length + 1) {}

theorem pass_eq (cs : List Char) : pass cs = some (stripOnce cs) := by
  refine Scan.run_eq ⟨Nat.zero_le _, rfl⟩ ?_
  simp [Scan.left]

/-- Scans until one changes nothing, or `none` if one has a fault or so many are too few. -/
def rounds : Nat → List Char → Option (List Char)
  | 0, _ => none
  | n + 1, cs => do
    let next ← pass cs
    if next = cs then return next
    rounds n next

/-- A scan that changes a text deletes a `<` and what it opens with. -/
theorem length_stripOnce_add_two_le {cs : List Char} (h : stripOnce cs ≠ cs) :
    (stripOnce cs).length + 2 ≤ cs.length := by
  induction cs with
  | nil => exact absurd (by rw [stripOnce]) h
  | cons c cs ih =>
    rw [stripOnce_cons] at h ⊢
    by_cases hopen : c = '<' ∧ cs.head?.any opensMarkup = true
    · rw [if_pos hopen]
      obtain ⟨d, ds, rfl⟩ : ∃ d ds, cs = d :: ds := by
        cases cs with
        | nil => simp at hopen
        | cons d ds => exact ⟨d, ds, rfl⟩
      split
      · have h1 := (stripOnce_sublist (afterComment ((d :: ds).drop 3))).length_le
        have h2 := (afterComment_sublist ((d :: ds).drop 3)).length_le
        simp only [List.length_drop, List.length_cons] at h2 ⊢
        omega
      · have hd : (d == '>') = false := by
          rw [beq_eq_false_iff_ne]
          rintro rfl
          have hopens : opensMarkup '>' = true := by simpa using hopen.2
          exact absurd hopens (by decide)
        rw [afterTag, if_neg (by simp [hd])]
        have h1 := (stripOnce_sublist (afterTag (if d == '\x22' || d == '\x27' then some d else none) ds)).length_le
        have h2 := (afterTag_sublist (if d == '\x22' || d == '\x27' then some d else none) ds).length_le
        simp only [List.length_cons]
        omega
    · rw [if_neg hopen] at h ⊢
      have hrest := ih fun he => h (by rw [he])
      simp only [List.length_cons]
      omega

/-- Stripping ends, after at most one scan for every two characters and one more. -/
theorem rounds_eq {n : Nat} {cs : List Char} (hn : cs.length < 2 * n) : rounds n cs = some (stripChars cs) := by
  induction n generalizing cs with
  | zero => omega
  | succ n ih =>
    rw [stripChars]
    by_cases hsame : stripOnce cs = cs
    · simp [rounds, pass_eq, hsame]
    · have hlength := length_stripOnce_add_two_le hsame
      have hshorter : (stripOnce cs).length < 2 * n := by omega
      have hrest := ih hshorter
      simp [rounds, pass_eq, hsame, hrest]

/-- Stripping comes to an end without a fault, only deletes, and leaves nothing that opens markup; a text in which
nothing does stays as it is, and no other. -/
theorem strip_inert (s : String) : rounds (s.length / 2 + 1) s.toList = some (strip s).toList ∧
    (strip s).toList.Sublist s.toList ∧ Inert (strip s).toList ∧ (strip s = s ↔ Inert s.toList) := by
  have htext : (strip s).toList = stripChars s.toList := by simp [strip]
  refine ⟨?_, ?_, ?_, ?_⟩
  · rw [htext]
    apply rounds_eq
    rw [String.length_toList]
    omega
  · rw [htext]
    exact stripChars_sublist s.toList
  · rw [htext]
    exact inert_stripChars s.toList
  · rw [← String.toList_inj, htext]
    exact stripChars_eq_self_iff

/-- A tag that is formed by deleting another is deleted in its turn. -/
example : strip "<<b>i>x <!-- > --> 1 < 2" = "x  1 < 2" := by decide +kernel

end FieldRules.Markup
