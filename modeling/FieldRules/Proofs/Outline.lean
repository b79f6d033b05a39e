import FieldRules.Proofs.Escapes
/-!
# The outline of a rule

A rule is cut into cells when its patterns have been taken out. Its outline is what there is to cut: its characters,
with each pattern as one sign. The lifted text is the outline with marks for the patterns (`lift_eq_outline`), and an
outline goes on behind a separator as if the rule began there (`outline_append`).
-/

namespace FieldRules

open FieldRules.Text

/-! ## Signs -/

/-- A sign of an outline. -/
inductive Sign where
  | char (c : Char)
  /-- A pattern as a whole. -/
  | pattern (text : String)
  deriving DecidableEq, Repr

namespace Sign

def pattern? : Sign → Option String
  | .char _ => none
  | .pattern text => some text

/-- The characters that show an outline, with marks for its patterns; `n` patterns were taken before. -/
def shown (n : Nat) : List Sign → List Char
  | [] => []
  | .char c :: signs => c :: shown n signs
  | .pattern _ :: signs => (PatternStash.mark n).toList ++ shown (n + 1) signs

/-- The patterns of an outline. -/
def patterns (signs : List Sign) : List String := signs.filterMap pattern?

theorem patterns_append (a b : List Sign) : patterns (a ++ b) = patterns a ++ patterns b := List.filterMap_append

@[simp] theorem patterns_nil : patterns [] = [] := rfl

@[simp] theorem patterns_char (c : Char) (signs : List Sign) : patterns (.char c :: signs) = patterns signs := rfl

@[simp] theorem patterns_pattern (p : String) (signs : List Sign) :
    patterns (.pattern p :: signs) = p :: patterns signs := rfl

@[simp] theorem patterns_map_char (cs : List Char) : patterns (cs.map .char) = [] := by
  induction cs with
  | nil => rfl
  | cons c cs ih => exact ih

theorem mem_patterns {p : String} {signs : List Sign} : p ∈ patterns signs ↔ .pattern p ∈ signs := by
  induction signs with
  | nil => simp
  | cons sign signs ih => cases sign <;> simp [ih]

theorem shown_append (n : Nat) (a b : List Sign) :
    shown n (a ++ b) = shown n a ++ shown (n + (patterns a).length) b := by
  induction a generalizing n with
  | nil => rfl
  | cons sign a ih =>
    cases sign with
    | char c => simp [shown, ih]
    | pattern p => simp [shown, ih, Nat.add_assoc, Nat.add_comm 1]

@[simp] theorem shown_map_char (n : Nat) (cs : List Char) : shown n (cs.map .char) = cs := by
  induction cs with
  | nil => rfl
  | cons c cs ih => rw [List.map_cons, shown, ih]

end Sign

namespace PatternStash

/-! ## Marks -/

theorem mem_mark {n : Nat} {c : Char} (h : c ∈ (mark n).toList) :
    isAsciiLetter c = true ∨ isAsciiDigit c = true ∨ c = '_' := by
  have hall : (patternMark.toList ++ patternMarkEnd.toList).all (fun c => isAsciiLetter c || c == '_') = true := by decide
  have hsigns : ∀ c ∈ patternMark.toList ++ patternMarkEnd.toList, isAsciiLetter c = true ∨ c = '_' := by
    simpa using List.all_eq_true.1 hall
  rw [mark, String.toList_append, String.toList_append, List.mem_append, List.mem_append] at h
  rcases h with (h | h) | h
  · exact (hsigns c (List.mem_append_left _ h)).imp_right .inr
  · exact .inr (.inl (isAsciiDigit_of_mem_showNat h))
  · exact (hsigns c (List.mem_append_right _ h)).imp_right .inr

/-- A sign that is no letter, no digit and no underscore stands in no mark. -/
theorem not_mem_mark {c : Char} (hletter : isAsciiLetter c = false) (hdigit : isAsciiDigit c = false) (hc : c ≠ '_')
    (n : Nat) : c ∉ (mark n).toList := by
  intro h
  rcases mem_mark h with h | h | h
  · rw [hletter] at h
    cases h
  · rw [hdigit] at h
    cases h
  · exact hc h

theorem trimmed_mark (n : Nat) : Trimmed (mark n).toList := by
  have hunderscore : isBlank '_' = false := rfl
  constructor
  · simp [mark, patternMark, hunderscore]
  · simp [mark, patternMarkEnd, hunderscore]

/-- A mark stands for the pattern with its number. -/
theorem restore_mark {stash : PatternStash} {n : Nat} {p : String} (h : stash.patterns[n]? = some p) :
    stash.restore (mark n) = p := by
  have hn : n < stash.patterns.length := (List.getElem?_eq_some_iff.1 h).1
  simp [restore, mark, List.append_assoc, natBelow?_showNat hn, h]

/-- What is no mark stands for itself. -/
theorem restore_of_not_occurs {value : String} (h : occurs patternMark.toList value.toList = false)
    (stash : PatternStash) : stash.restore value = value := by
  unfold restore
  cases hstart : afterStart patternMark.toList value.toList with
  | none => rfl
  | some rest =>
    have hoccurs : occurs patternMark.toList value.toList = true := by
      rw [occurs_iff, afterStart_eq_some hstart]
      exact (List.prefix_append _ rest).isInfix
    rw [h] at hoccurs
    cases hoccurs

/-! ## Heads of cells -/

/-- What opens a cell that holds a pattern: a name of the test of patterns between blanks, and a colon. -/
inductive IsCellHead : List Char → Prop
  | intro {blanks name gap : List Char} (hblanks : ∀ c ∈ blanks, isBlank c = true)
      (hletters : ∀ c ∈ name, isAsciiLetter c = true) (hgap : ∀ c ∈ gap, isBlank c = true)
      (hname : cellNames.contains (asciiLower (String.ofList name)) = true) :
      IsCellHead (blanks ++ name ++ gap ++ [':'])

theorem IsCellHead.not_isSeparator {head : List Char} (h : IsCellHead head) : ∀ c ∈ head, isSeparator c = false := by
  obtain ⟨hblanks, hletters, hgap, -⟩ := h
  have hsep : ∀ c, isSeparator c = true → isBlank c = false ∧ isAsciiLetter c = false ∧ c ≠ ':' := by
    intro c hc
    rcases by simpa [isSeparator] using hc with rfl | rfl <;> decide
  intro c hc
  by_contra hs
  obtain ⟨hblank, hletter, hcolon⟩ := hsep c (by simpa using hs)
  simp only [List.mem_append, List.mem_singleton] at hc
  rcases hc with ((hc | hc) | hc) | hc
  · simp [hblanks c hc] at hblank
  · simp [hletters c hc] at hletter
  · simp [hgap c hc] at hblank
  · exact hcolon hc

/-- A cell is opened by its head just if it has one. -/
theorem cellHead?_eq_some_iff {cs head after : List Char} :
    cellHead? cs = some (head, after) ↔ IsCellHead head ∧ cs = head ++ after := by
  constructor
  · intro h
    unfold cellHead? at h
    simp only at h
    split at h
    · rename_i after' hrest
      split at h
      · rename_i hname
        cases h
        refine ⟨.intro ?_ ?_ ?_ hname, ?_⟩
        · exact fun c hc => List.mem_takeWhile_imp hc
        · exact fun c hc => List.mem_takeWhile_imp hc
        · exact fun c hc => List.mem_takeWhile_imp hc
        · rw [List.append_assoc, List.append_assoc, List.append_assoc, List.singleton_append, ← hrest,
            List.takeWhile_append_dropWhile, List.takeWhile_append_dropWhile, List.takeWhile_append_dropWhile]
      · cases h
    · cases h
  · rintro ⟨⟨hblanks, hletters, hgap, hname⟩, rfl⟩
    rename_i blanks name gap
    have hfirst : ∀ c ∈ (name ++ (gap ++ ':' :: after)).head?, isBlank c = false := by
      cases name with
      | nil => cases hname
      | cons c name =>
        rintro _ ⟨⟩
        exact not_isBlank_of_isAsciiLetter (hletters c List.mem_cons_self)
    have hsecond : ∀ c ∈ (gap ++ ':' :: after).head?, isAsciiLetter c = false := by
      cases gap with
      | nil =>
        rintro _ ⟨⟩
        rfl
      | cons c gap =>
        rintro _ ⟨⟩
        by_contra hletter
        have hblank := hgap c List.mem_cons_self
        rw [not_isBlank_of_isAsciiLetter (by simpa using hletter)] at hblank
        cases hblank
    have hthird : ∀ c ∈ (':' :: after).head?, isBlank c = false := by
      rintro _ ⟨⟩
      rfl
    have hcs : blanks ++ name ++ gap ++ [':'] ++ after = blanks ++ (name ++ (gap ++ ':' :: after)) := by simp
    unfold cellHead?
    rw [hcs]
    simp only [takeWhile_run hblanks hfirst, dropWhile_run hblanks hfirst, takeWhile_run hletters hsecond,
      dropWhile_run hletters hsecond, takeWhile_run hgap hthird, dropWhile_run hgap hthird, hname, if_true]

theorem isCellHead_re : IsCellHead "re:".toList := by
  have hhead : cellHead? "re:".toList = some ("re:".toList, []) := by decide
  exact (cellHead?_eq_some_iff.1 hhead).1

theorem cellHead?_append {cs after : List Char} {separator : Char} (hs : isSeparator separator = true) :
    cellHead? (cs ++ separator :: after) = (cellHead? cs).map fun (head, rest) => (head, rest ++ separator :: after) := by
  cases h : cellHead? cs with
  | some cell =>
    obtain ⟨hhead, rfl⟩ := cellHead?_eq_some_iff.1 h
    exact cellHead?_eq_some_iff.2 ⟨hhead, by simp⟩
  | none =>
    rw [Option.map_none, Option.eq_none_iff_forall_not_mem]
    rintro ⟨head, rest⟩ hcell
    obtain ⟨hhead, he⟩ := cellHead?_eq_some_iff.1 hcell
    -- The separator is behind the head, so the head stands in the first part already.
    rcases List.append_eq_append_iff.1 he with ⟨tail, rfl, htail⟩ | ⟨tail, rfl, -⟩
    · cases tail with
      | nil =>
        rw [List.append_nil] at hhead
        rw [cellHead?_eq_some_iff.2 ⟨hhead, (List.append_nil cs).symm⟩] at h
        cases h
      | cons c tail =>
        cases htail
        have hplain := hhead.not_isSeparator separator (by simp)
        simp [hs] at hplain
    · rw [cellHead?_eq_some_iff.2 ⟨hhead, rfl⟩] at h
      cases h

/-! ## Outlines -/

/-- The signs that open a cell, up to its pattern if it has one, and what follows. -/
def openSigns (cs : List Char) : List Sign × List Char :=
  match cellHead? cs with
  | some (head, after) =>
    let (pattern, rest) := cutPattern (trimStartChars after)
    (head.map .char ++ [.pattern (String.ofList (trimEndChars pattern))], rest)
  | none => ([], cs)

theorem openSigns_head {head : List Char} (hhead : IsCellHead head) (rest : List Char) : openSigns (head ++ rest) =
    (head.map .char ++ [.pattern (String.ofList (trimEndChars (cutPattern (trimStartChars rest)).1))],
      (cutPattern (trimStartChars rest)).2) := by
  simp [openSigns, cellHead?_eq_some_iff.2 ⟨hhead, rfl⟩]

theorem openCell_eq (n : Nat) (cs : List Char) : openCell n cs =
    ⟨Sign.shown n (openSigns cs).1, (Sign.patterns (openSigns cs).1).head?, (openSigns cs).2⟩ := by
  cases h : cellHead? cs <;> simp [openCell, openSigns, h, Sign.shown, Sign.shown_append, Sign.patterns_append]

theorem length_openSigns (cs : List Char) : (openSigns cs).2.length ≤ cs.length := by
  have h := length_openCell 0 cs
  rwa [openCell_eq] at h

/-- The outline of a rule. -/
def outline (cs : List Char) : List Sign :=
  match _h : (openSigns cs).2.dropWhile fun c => !isSeparator c with
  | [] => (openSigns cs).1 ++ (openSigns cs).2.map .char
  | separator :: after =>
    (openSigns cs).1 ++ ((openSigns cs).2.takeWhile fun c => !isSeparator c).map .char ++
      .char separator :: outline after
termination_by cs.length
decreasing_by
  have h1 := length_openSigns cs
  have h2 := (List.dropWhile_sublist (fun c => !isSeparator c) (l := (openSigns cs).2)).length_le
  rw [_h, List.length_cons] at h2
  omega

theorem toList_head?_patterns_openSigns (cs : List Char) :
    (Sign.patterns (openSigns cs).1).head?.toList = Sign.patterns (openSigns cs).1 := by
  cases h : cellHead? cs <;> simp [openSigns, h, Sign.patterns_append]

theorem char_not_mem_head {head : List Char} (hhead : IsCellHead head) {c : Char} (hc : isSeparator c = true)
    (p : String) : .char c ∉ head.map .char ++ [Sign.pattern p] := by
  intro h
  have hplain := hhead.not_isSeparator c (by simpa using h)
  rw [hc] at hplain
  cases hplain

/-- Lifting shows the outline with a mark for each pattern, and gives the patterns in order. -/
theorem liftFrom_eq_outline (n : Nat) (cs : List Char) :
    liftFrom n cs = (Sign.shown n (outline cs), Sign.patterns (outline cs)) := by
  -- Each cell of a rule takes a number further if it has a pattern, so the number is general.
  fun_induction outline cs generalizing n with
  | case1 cs h =>
    rw [liftFrom]
    simp only [openCell_eq, toList_head?_patterns_openSigns]
    split
    · simp [Sign.shown_append, Sign.patterns_append]
    · rename_i hrest
      simp only [openCell_eq] at hrest
      rw [h] at hrest
      cases hrest
  | case2 cs separator after h ih =>
    rw [liftFrom]
    simp only [openCell_eq, toList_head?_patterns_openSigns]
    split
    · rename_i hrest
      simp only [openCell_eq] at hrest
      rw [h] at hrest
      cases hrest
    · rename_i hrest
      simp only [openCell_eq] at hrest
      rw [h] at hrest
      cases hrest
      simp [ih, Sign.shown, Sign.shown_append, Sign.patterns_append]

theorem lift_eq_outline (rule : String) : lift {} rule =
    (⟨Sign.patterns (outline rule.toList)⟩, String.ofList (Sign.shown 0 (outline rule.toList))) := by
  simp [lift, liftFrom_eq_outline]

/-! ## An outline goes on behind a separator -/

section
variable {separator : Char} (hs : isSeparator separator = true)
include hs

theorem isSeparator_cases : separator = ';' ∨ separator = '|' := by
  simpa [isSeparator] using hs

theorem not_isBlank_separator : isBlank separator = false := by
  rcases isSeparator_cases hs with rfl | rfl <;> rfl

theorem not_isAsciiLetter_separator : isAsciiLetter separator = false := by
  rcases isSeparator_cases hs with rfl | rfl <;> rfl

/-- A delimited pattern that is closed ends there, whatever stands behind the text. -/
theorem cutPattern_append_delimited {c : Char} (hc : Pattern.isDelimiter c = true) {cs : List Char}
    (hclosed : ¬ Pattern.EscapesEach c cs) (after : List Char) : cutPattern (c :: cs ++ separator :: after) =
      ((cutPattern (c :: cs)).1, (cutPattern (c :: cs)).2 ++ separator :: after) := by
  obtain ⟨body, rest, rfl, hbody, hend⟩ := exists_closing hc hclosed
  have hletter := not_isAsciiLetter_separator hs
  have hcs : c :: (body ++ c :: rest) ++ separator :: after = c :: (body ++ c :: (rest ++ separator :: after)) := by
    simp
  rw [hcs, cutPattern_closed hc hbody hend, cutPattern_closed hc hbody hend, takeWhile_append_cons hletter,
    dropWhile_append_cons hletter]

end

/-- A bare pattern ends at the first semicolon, if it is not cut at a bar already. -/
theorem cutPattern_append_bare {cs : List Char} (hc : ∀ c ∈ cs.head?, Pattern.isDelimiter c = false)
    (hbar : (cutPattern cs).2.head? ≠ some '|') (after : List Char) :
    cutPattern (cs ++ ';' :: after) = ((cutPattern cs).1, (cutPattern cs).2 ++ ';' :: after) := by
  have hbare : ∀ {cs : List Char}, (∀ c ∈ cs.head?, Pattern.isDelimiter c = false) →
      cutPattern cs = splitBefore (· == (if cs.contains ';' then ';' else '|')) cs := by
    intro cs hc
    cases cs with
    | nil => rfl
    | cons c cs => simp [cutPattern, hc c rfl]
  have hfirst : ∀ c ∈ (cs ++ ';' :: after).head?, Pattern.isDelimiter c = false := by
    cases cs with
    | nil =>
      rintro _ ⟨⟩
      rfl
    | cons c cs => exact hc
  have hcontains : (cs ++ ';' :: after).contains ';' = true := by simp
  have hstop : (fun c => !(c == ';')) ';' = false := rfl
  rw [hbare hfirst, hcontains, if_pos rfl, splitBefore, takeWhile_append_cons hstop, dropWhile_append_cons hstop]
  rw [hbare hc] at hbar ⊢
  by_cases h : cs.contains ';' = true
  · rw [if_pos h, splitBefore]
  · -- No sign ends the pattern within the text, so it is all of it.
    rw [if_neg h, splitBefore] at hbar ⊢
    have hnone : cs.dropWhile (fun c => !(c == '|')) = [] := by
      cases hd : cs.dropWhile (fun c => !(c == '|')) with
      | nil => rfl
      | cons d ds =>
        have hd' := List.head?_dropWhile_not (fun c => !(c == '|')) cs
        rw [hd] at hd' hbar
        exact absurd (by simpa using hd') (by simpa using hbar)
    have hall : ∀ c ∈ cs, (!(c == ';')) = true := by
      intro c hc
      simp only [Bool.not_eq_true', beq_eq_false_iff_ne]
      rintro rfl
      exact h (by simpa using hc)
    have hbars : cs.takeWhile (fun c => !(c == '|')) = cs := by
      rw [← List.append_nil (cs.takeWhile _), ← hnone, List.takeWhile_append_dropWhile]
    have hsemicolons : cs.takeWhile (fun c => !(c == ';')) = cs := List.takeWhile_eq_self_iff.2 hall
    rw [hnone, hbars, hsemicolons, List.dropWhile_eq_nil_iff.2 hall]

theorem outline_of_nil {cs : List Char} (h : (openSigns cs).2.dropWhile (fun c => !isSeparator c) = []) :
    outline cs = (openSigns cs).1 ++ (openSigns cs).2.map .char := by
  rw [outline]
  split
  · rfl
  · rename_i hrest
    rw [h] at hrest
    cases hrest

theorem outline_of_cons {cs rest : List Char} {separator : Char}
    (h : (openSigns cs).2.dropWhile (fun c => !isSeparator c) = separator :: rest) :
    outline cs = (openSigns cs).1 ++ ((openSigns cs).2.takeWhile fun c => !isSeparator c).map .char ++
      .char separator :: outline rest := by
  rw [outline]
  split
  · rename_i hrest
    rw [h] at hrest
    cases hrest
  · rename_i hrest
    rw [h] at hrest
    cases hrest
    rfl

section
variable {cs after : List Char} {separator : Char} (hs : isSeparator separator = true)
include hs

theorem openSigns_append (hcut : ∀ head rest, cellHead? cs = some (head, rest) →
      cutPattern (trimStartChars rest ++ separator :: after) = ((cutPattern (trimStartChars rest)).1,
        (cutPattern (trimStartChars rest)).2 ++ separator :: after)) :
    openSigns (cs ++ separator :: after) = ((openSigns cs).1, (openSigns cs).2 ++ separator :: after) := by
  unfold openSigns
  rw [cellHead?_append hs]
  cases h : cellHead? cs with
  | none => rfl
  | some cell =>
    have htrim : trimStartChars (cell.2 ++ separator :: after) = trimStartChars cell.2 ++ separator :: after :=
      dropWhile_append_cons (not_isBlank_separator hs) _ _
    simp [htrim, hcut cell.1 cell.2 h]

section
variable (hopen : openSigns (cs ++ separator :: after) = ((openSigns cs).1, (openSigns cs).2 ++ separator :: after))
include hopen

theorem outline_append_of_nil (h : (openSigns cs).2.dropWhile (fun c => !isSeparator c) = []) :
    outline (cs ++ separator :: after) = outline cs ++ .char separator :: outline after := by
  have hstop : (fun c => !isSeparator c) separator = false := by simp [hs]
  have hrest : (openSigns (cs ++ separator :: after)).2.dropWhile (fun c => !isSeparator c) = separator :: after := by
    rw [hopen, dropWhile_append_cons hstop, h, List.nil_append]
  have htake : (openSigns cs).2.takeWhile (fun c => !isSeparator c) = (openSigns cs).2 := by
    rw [← List.append_nil (List.takeWhile _ _), ← h, List.takeWhile_append_dropWhile]
  rw [outline_of_cons hrest, outline_of_nil h, hopen, takeWhile_append_cons hstop, htake]

theorem outline_append_of_cons {rest : List Char} {c : Char}
    (h : (openSigns cs).2.dropWhile (fun c => !isSeparator c) = c :: rest)
    (hrest : outline (rest ++ separator :: after) = outline rest ++ .char separator :: outline after) :
    outline (cs ++ separator :: after) = outline cs ++ .char separator :: outline after := by
  have hstop : (fun c => !isSeparator c) separator = false := by simp [hs]
  have hdrop : (openSigns (cs ++ separator :: after)).2.dropWhile (fun c => !isSeparator c) =
      c :: (rest ++ separator :: after) := by
    rw [hopen, dropWhile_append_cons hstop, h, List.cons_append]
  rw [outline_of_cons hdrop, outline_of_cons h, hopen, takeWhile_append_cons hstop, hrest]
  simp

end

end

/-- A rule none of whose cells has a head holds no pattern. -/
theorem outline_of_no_head {cs : List Char} (h : ∀ piece ∈ piecesBy isSeparator cs, cellHead? piece = none) :
    outline cs = cs.map .char := by
  have hopen : openSigns cs = ([], cs) := by
    have hnone : cellHead? cs = none := by
      cases hrest : cs.dropWhile fun c => !isSeparator c with
      | nil => exact h cs (by rw [piecesBy_of_dropWhile_nil hrest]; exact .head _)
      | cons separator rest =>
        obtain ⟨hs, hcs, hpieces⟩ := piecesBy_of_dropWhile_cons hrest
        rw [hcs, cellHead?_append hs, h _ (by rw [hpieces]; exact .head _), Option.map_none]
    simp [openSigns, hnone]
  cases hrest : cs.dropWhile fun c => !isSeparator c with
  | nil => rw [outline_of_nil (by rw [hopen, hrest]), hopen, List.nil_append]
  | cons separator rest =>
    obtain ⟨-, hcs, hpieces⟩ := piecesBy_of_dropWhile_cons hrest
    have hafter : outline rest = rest.map .char :=
      outline_of_no_head fun piece hpiece => h piece (by rw [hpieces]; exact .tail _ hpiece)
    rw [outline_of_cons (by rw [hopen, hrest]), hopen, hafter]
    conv_rhs => rw [hcs]
    simp
termination_by cs.length
decreasing_by
  rw [hcs, List.length_append, List.length_cons]
  omega

/-- A semicolon ends the pattern of a cell, if that is closed and was not cut at a bar before. -/
theorem openSigns_append_semicolon {cs : List Char}
    (hclosed : ∀ p ∈ Sign.patterns (openSigns cs).1, Pattern.Closed p)
    (hbar : Sign.patterns (openSigns cs).1 ≠ [] → (openSigns cs).2.head? ≠ some '|') (after : List Char) :
    openSigns (cs ++ ';' :: after) = ((openSigns cs).1, (openSigns cs).2 ++ ';' :: after) := by
  refine openSigns_append rfl fun head rest hcell => ?_
  have hsigns : openSigns cs = (head.map .char ++ [.pattern (String.ofList (trimEndChars
      (cutPattern (trimStartChars rest)).1))], (cutPattern (trimStartChars rest)).2) := by
    simp [openSigns, hcell]
  have hpatterns : Sign.patterns (openSigns cs).1 =
      [String.ofList (trimEndChars (cutPattern (trimStartChars rest)).1)] := by
    simp [hsigns, Sign.patterns_append]
  rw [hpatterns, List.forall_mem_singleton] at hclosed
  have hbar := hbar (by simp [hpatterns])
  rw [hsigns] at hbar
  cases hv : trimStartChars rest with
  | nil => exact cutPattern_append_bare (by simp) (by simp [cutPattern]) after
  | cons c v =>
    rw [hv] at hclosed hbar
    cases hc : Pattern.isDelimiter c with
    | false => exact cutPattern_append_bare (by simpa using hc) hbar after
    | true =>
      -- If each delimiter were escaped, the pattern would be all of the text, and it is closed.
      refine cutPattern_append_delimited rfl hc (fun heach => ?_) after
      have hblank : isBlank c = false := not_isBlank_head?_dropWhile (by rw [← trimStartChars, hv]; rfl)
      rw [cutPattern_unclosed hc heach, ← List.nil_append (c :: v), trimEndChars_append_cons hblank] at hclosed
      exact hclosed c _ (String.toList_ofList ..) hc (heach.of_prefix (trimEndChars_isPrefix v))

theorem openSigns_of_patterns_ne_nil {cs : List Char} (h : Sign.patterns (openSigns cs).1 ≠ []) :
    ∃ a p, (openSigns cs).1 = a ++ [.pattern p] := by
  cases hcell : cellHead? cs with
  | none => simp [openSigns, hcell] at h
  | some cell =>
    exact ⟨cell.1.map .char, String.ofList (trimEndChars (cutPattern (trimStartChars cell.2)).1),
      by simp [openSigns, hcell]⟩

/-- An outline goes on behind a semicolon as if a rule began there, if each pattern before it is closed and none was
cut at a bar. -/
theorem outline_append {cs : List Char} (hclosed : ∀ p ∈ Sign.patterns (outline cs), Pattern.Closed p)
    (hbar : ∀ p a b, outline cs ≠ a ++ .pattern p :: .char '|' :: b) (after : List Char) :
    outline (cs ++ ';' :: after) = outline cs ++ .char ';' :: outline after := by
  induction cs using outline.induct with
  | case1 cs h =>
    have hcs := outline_of_nil h
    have hopen : openSigns (cs ++ ';' :: after) = ((openSigns cs).1, (openSigns cs).2 ++ ';' :: after) := by
      refine openSigns_append_semicolon (fun p hp => hclosed p ?_) (fun _ hhead => ?_) after
      · simp [hcs, Sign.patterns_append, hp]
      · have hnone := List.dropWhile_eq_nil_iff.1 h '|' (List.mem_of_mem_head? hhead)
        cases hnone
    exact outline_append_of_nil rfl hopen h
  | case2 cs separator rest h ih =>
    have hcs := outline_of_cons h
    have hopen : openSigns (cs ++ ';' :: after) = ((openSigns cs).1, (openSigns cs).2 ++ ';' :: after) := by
      refine openSigns_append_semicolon (fun p hp => hclosed p ?_) (fun hpatterns hhead => ?_) after
      · simp [hcs, Sign.patterns_append, hp]
      · -- A bar that cut the pattern off is the separator right behind it.
        obtain ⟨a, p, ha⟩ := openSigns_of_patterns_ne_nil hpatterns
        obtain ⟨more, hmore⟩ := List.head?_eq_some_iff.1 hhead
        rw [hmore] at h
        cases h
        exact hbar p a (outline rest) (by simp [hcs, ha, hmore, isSeparator])
    refine outline_append_of_cons rfl hopen h (ih (fun p hp => hclosed p ?_) fun p a b hrest => ?_)
    · simp [hcs, Sign.patterns_append, hp]
    · exact hbar p _ b (by rw [hcs, hrest, ← List.cons_append, ← List.append_assoc])

end PatternStash

end FieldRules
