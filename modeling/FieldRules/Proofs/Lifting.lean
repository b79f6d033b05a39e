import FieldRules.Proofs.Outline
import Mathlib.Data.List.Chain
/-!
# Nothing is lost when patterns are taken out

A lifted rule shows its outline with marks for the patterns. The outline has all of the rule but blanks about patterns
(`outlines_outline`), and a pattern behind each head of a cell (`head?_of_endsInHead`). A mark stands in the lifted text
where its pattern was, and nowhere else but for one way: its last underscore is the first of another mark if the rule
goes on behind the pattern as that mark does (`occurrences_mark_shown`). So putting the patterns back from left to right
gives the rule without those blanks (`lift_lossless`).
-/

namespace FieldRules

open FieldRules.Text

/-! ## Texts -/

namespace Text

/-- At how many places a word stands in a text. The places may overlap. -/
def occurrences (word : List Char) : List Char → Nat
  | [] => 0
  | c :: cs => occurrences word cs + if word <+: c :: cs then 1 else 0

theorem occurrences_cons_of_not {word cs : List Char} {c : Char} (h : ¬ word <+: c :: cs) :
    occurrences word (c :: cs) = occurrences word cs := by
  rw [occurrences, if_neg h, Nat.add_zero]

theorem occurrences_append_of_not {word u cs : List Char} (h : ∀ v, v <:+ u → v ≠ [] → ¬ word <+: v ++ cs) :
    occurrences word (u ++ cs) = occurrences word cs := by
  induction u with
  | nil => rfl
  | cons c u ih =>
    have hfirst : ¬ word <+: c :: (u ++ cs) := h (c :: u) (List.suffix_refl _) (List.cons_ne_nil _ _)
    rw [List.cons_append, occurrences_cons_of_not hfirst, ih fun v hv => h v (hv.trans (List.suffix_cons c u))]

/-- Where two lists are equal, a place in one is before that in the other or behind it. -/
theorem append_cons_eq_append_cons {α : Type} {x y a b : List α} {c d : α} (hne : c ≠ d)
    (h : x ++ c :: y = a ++ d :: b) :
    (∃ m, x = a ++ d :: m ∧ b = m ++ c :: y) ∨ ∃ m, a = x ++ c :: m ∧ y = m ++ d :: b := by
  rcases List.append_eq_append_iff.1 h with ⟨m, ha, hm⟩ | ⟨m, hx, hm⟩
  · cases m with
    | nil => exact absurd (List.cons.inj hm).1 hne
    | cons e m =>
      obtain ⟨rfl, hy⟩ := List.cons.inj hm
      exact .inr ⟨m, ha, hy⟩
  · cases m with
    | nil => exact absurd (List.cons.inj hm).1.symm hne
    | cons e m =>
      obtain ⟨rfl, hb⟩ := List.cons.inj hm
      exact .inl ⟨m, hx, hb⟩

end Text

/-! ## Outlines -/

namespace Sign

/-- The characters of an outline, with each pattern in its place. -/
def text : List Sign → List Char
  | [] => []
  | .char c :: signs => c :: text signs
  | .pattern p :: signs => p.toList ++ text signs

/-- The outline has the characters and the patterns of the text in order. It leaves out nothing but blanks right before
patterns and right behind them. -/
inductive Outlines : List Sign → List Char → Prop
  | nil : Outlines [] []
  | char (c : Char) {signs : List Sign} {cs : List Char} (h : Outlines signs cs) : Outlines (.char c :: signs) (c :: cs)
  | pattern (p : String) {gap trail cs : List Char} {signs : List Sign} (hgap : ∀ c ∈ gap, isBlank c = true)
      (htrail : ∀ c ∈ trail, isBlank c = true) (h : Outlines signs cs) :
      Outlines (.pattern p :: signs) (gap ++ p.toList ++ trail ++ cs)

/-- The signs end in the head of a cell, which is the first or stands behind a separator. -/
def EndsInHead (signs : List Sign) : Prop :=
  ∃ before head, signs = before ++ head.map .char ∧ PatternStash.IsCellHead head ∧
    ∀ sign ∈ before.getLast?, ∃ c, sign = .char c ∧ PatternStash.isSeparator c = true

/-- How many patterns of an outline a word stands right behind. -/
def followed (word : List Char) : List Sign → Nat
  | [] => 0
  | .char _ :: signs => followed word signs
  | .pattern _ :: signs => followed word signs + if word.map .char <+: signs then 1 else 0

theorem Outlines.map_char (cs : List Char) : Outlines (cs.map .char) cs := by
  induction cs with
  | nil => exact .nil
  | cons c cs ih => exact .char c ih

theorem Outlines.append {a b : List Sign} {cs ds : List Char} (ha : Outlines a cs) (hb : Outlines b ds) :
    Outlines (a ++ b) (cs ++ ds) := by
  induction ha with
  | nil => exact hb
  | char c _ ih => exact .char c ih
  | pattern p hgap htrail _ ih =>
    rw [List.append_assoc]
    exact .pattern p hgap htrail ih

theorem Outlines.exists_append {a b : List Sign} {cs : List Char} (h : Outlines (a ++ b) cs) :
    ∃ x y, cs = x ++ y ∧ Outlines a x ∧ Outlines b y := by
  generalize hsigns : a ++ b = signs at h
  induction h generalizing a with
  | nil =>
    obtain ⟨rfl, rfl⟩ := List.append_eq_nil_iff.1 hsigns
    exact ⟨[], [], rfl, .nil, .nil⟩
  | char c h ih =>
    cases a with
    | nil =>
      obtain rfl : b = _ := hsigns
      exact ⟨[], _, rfl, .nil, .char c h⟩
    | cons sign a =>
      cases hsigns
      obtain ⟨x, y, rfl, ha, hb⟩ := ih rfl
      exact ⟨c :: x, y, rfl, .char c ha, hb⟩
  | pattern p hgap htrail h ih =>
    cases a with
    | nil =>
      obtain rfl : b = _ := hsigns
      exact ⟨[], _, rfl, .nil, .pattern p hgap htrail h⟩
    | cons sign a =>
      cases hsigns
      obtain ⟨x, y, rfl, ha, hb⟩ := ih rfl
      exact ⟨_, y, (List.append_assoc _ x y).symm, .pattern p hgap htrail ha, hb⟩

theorem Outlines.eq_of_map_char {run cs : List Char} (h : Outlines (run.map .char) cs) : cs = run := by
  induction run generalizing cs with
  | nil => cases h; rfl
  | cons c run ih =>
    cases h with
    | char _ h => rw [ih h]

/-- What stands between the patterns of an outline stands so in the text. -/
theorem Outlines.isInfix {run cs : List Char} {signs : List Sign} (h : Outlines signs cs)
    (hrun : run.map .char <:+: signs) : run <:+: cs := by
  obtain ⟨a, b, rfl⟩ := hrun
  obtain ⟨x, y, rfl, hx, -⟩ := h.exists_append
  obtain ⟨u, v, rfl, -, hv⟩ := hx.exists_append
  exact ⟨u, y, by rw [hv.eq_of_map_char]⟩

theorem EndsInHead.append {a b : List Sign} {separator : Char} (hs : PatternStash.isSeparator separator = true)
    (h : EndsInHead b) : EndsInHead (a ++ .char separator :: b) := by
  obtain ⟨before, head, rfl, hhead, hlast⟩ := h
  refine ⟨a ++ .char separator :: before, head, by simp, hhead, fun sign hsign => ?_⟩
  rw [List.getLast?_append_of_ne_nil _ (List.cons_ne_nil _ _), List.getLast?_cons] at hsign
  cases hbefore : before.getLast? with
  | none =>
    rw [hbefore] at hsign
    cases hsign
    exact ⟨separator, rfl, hs⟩
  | some last =>
    rw [hbefore] at hsign
    cases hsign
    exact hlast _ hbefore

/-- A pattern stands behind a colon. -/
theorem EndsInHead.getLast?_eq {signs : List Sign} (h : EndsInHead signs) : signs.getLast? = some (.char ':') := by
  obtain ⟨before, head, rfl, ⟨-, -, -, -⟩, -⟩ := h
  simp

/-- The end of what no separator stands in is all of it. -/
theorem EndsInHead.exists_head {signs : List Sign} (h : EndsInHead signs)
    (hplain : ∀ c, PatternStash.isSeparator c = true → Sign.char c ∉ signs) :
    ∃ head, PatternStash.IsCellHead head ∧ signs = head.map .char := by
  obtain ⟨before, head, rfl, hhead, hlast⟩ := h
  cases hbefore : before.getLast? with
  | none =>
    rw [List.getLast?_eq_none_iff.1 hbefore]
    exact ⟨head, hhead, rfl⟩
  | some sign =>
    obtain ⟨c, rfl, hc⟩ := hlast sign hbefore
    exact absurd (List.mem_append_left _ (List.mem_of_mem_getLast? hbefore)) (hplain c hc)

theorem EndsInHead.of_append {a b : List Sign} {separator : Char} (hs : PatternStash.isSeparator separator = true)
    (h : EndsInHead (a ++ .char separator :: b)) : EndsInHead b := by
  obtain ⟨before, head, hsigns, hhead, hlast⟩ := h
  have hplain : Sign.char separator ∉ head.map Sign.char := fun hmem => by
    have hnone := hhead.not_isSeparator separator (by simpa using hmem)
    rw [hs] at hnone
    cases hnone
  rcases List.append_eq_append_iff.1 hsigns with ⟨m, hbefore, hm⟩ | ⟨m, -, hm⟩
  · cases m with
    | nil => exact absurd (by rw [← List.nil_append (head.map _), ← hm]; exact List.mem_cons_self) hplain
    | cons sign m =>
      obtain ⟨rfl, rfl⟩ := List.cons.inj hm
      refine ⟨m, head, rfl, hhead, fun sign hsign => hlast sign ?_⟩
      rw [hbefore, List.getLast?_append_of_ne_nil _ (List.cons_ne_nil _ _), List.getLast?_cons, Option.mem_def.1 hsign]
      rfl
  · exact absurd (by rw [hm]; simp) hplain

end Sign

namespace PatternStash

/-! ## The outline of a rule -/

/-- What follows a pattern in a rule does not begin with a letter. -/
theorem not_isAsciiLetter_head?_cutPattern (cs : List Char) :
    ∀ c ∈ (cutPattern cs).2.head?, isAsciiLetter c = false := by
  cases cs with
  | nil => intro c hc; cases hc
  | cons d cs =>
    by_cases hd : Pattern.isDelimiter d = true
    · by_cases heach : Pattern.EscapesEach d cs
      · rw [cutPattern_unclosed hd heach]
        intro c hc
        cases hc
      · obtain ⟨body, rest, rfl, hbody, hend⟩ := exists_closing hd heach
        rw [cutPattern_closed hd hbody hend]
        intro c hc
        have hrest := List.head?_dropWhile_not isAsciiLetter rest
        rw [Option.mem_def.1 hc] at hrest
        exact hrest
    · -- A bare pattern ends at a separator.
      intro c hc
      have hrest := List.head?_dropWhile_not (fun c => !(c == if (d :: cs).contains ';' then ';' else '|')) (d :: cs)
      simp only [cutPattern, hd, Bool.false_eq_true, if_false, splitBefore] at hc
      rw [Option.mem_def.1 hc] at hrest
      simp only [Bool.not_eq_false', beq_iff_eq] at hrest
      rw [hrest]
      split <;> rfl

theorem outlines_openSigns (cs : List Char) :
    ∃ opened, cs = opened ++ (openSigns cs).2 ∧ Sign.Outlines (openSigns cs).1 opened := by
  cases hcell : cellHead? cs with
  | none =>
    have hopen : openSigns cs = ([], cs) := by simp [openSigns, hcell]
    exact ⟨[], by rw [hopen, List.nil_append], hopen ▸ .nil⟩
  | some cell =>
    obtain ⟨head, after⟩ := cell
    obtain ⟨hhead, rfl⟩ := cellHead?_eq_some_iff.1 hcell
    obtain ⟨trail, htrail, hblank⟩ := exists_trimEndChars (cutPattern (trimStartChars after)).1
    have hafter : after = after.takeWhile isBlank ++ trimEndChars (cutPattern (trimStartChars after)).1 ++ trail ++
        (cutPattern (trimStartChars after)).2 := by
      rw [List.append_assoc (List.takeWhile _ _), ← htrail, List.append_assoc, cutPattern_append_eq, trimStartChars,
        List.takeWhile_append_dropWhile]
    have hgap : ∀ c ∈ after.takeWhile isBlank, isBlank c = true := fun c => List.mem_takeWhile_imp
    have hopened := (Sign.Outlines.map_char head).append
      (.pattern (String.ofList (trimEndChars (cutPattern (trimStartChars after)).1)) hgap hblank .nil)
    rw [openSigns_head hhead]
    refine ⟨_, ?_, hopened⟩
    conv => lhs; rw [hafter]
    simp

theorem outlines_outline (cs : List Char) : Sign.Outlines (outline cs) cs := by
  induction cs using outline.induct with
  | case1 cs h =>
    obtain ⟨opened, hcs, hopened⟩ := outlines_openSigns cs
    rw [outline_of_nil h]
    conv => rhs; rw [hcs]
    exact hopened.append (.map_char _)
  | case2 cs separator after h ih =>
    obtain ⟨opened, hcs, hopened⟩ := outlines_openSigns cs
    obtain ⟨-, hrest, -⟩ := piecesBy_of_dropWhile_cons h
    rw [outline_of_cons h]
    conv => rhs; rw [hcs, hrest, ← List.append_assoc]
    exact (hopened.append (.map_char _)).append (.char separator ih)

/-! ## What stands about the patterns of an outline -/

/-- Up to the next separator a rule has at most the pattern that its first cell opens with. -/
theorem openSigns_append_eq {cs run : List Char} {a b : List Sign} {p : String}
    (h : (openSigns cs).1 ++ run.map .char = a ++ .pattern p :: b) : Sign.EndsInHead a ∧ b = run.map .char ∧
      ∀ c ∈ (openSigns cs).2.head?, isAsciiLetter c = false := by
  have hplain : ∀ (xs : List Char) (q : String), Sign.pattern q ∉ xs.map Sign.char := by simp
  cases hcell : cellHead? cs with
  | none =>
    have hopen : openSigns cs = ([], cs) := by simp [openSigns, hcell]
    rw [hopen, List.nil_append] at h
    exact absurd (by rw [h]; simp) (hplain run p)
  | some cell =>
    obtain ⟨head, after⟩ := cell
    obtain ⟨hhead, rfl⟩ := cellHead?_eq_some_iff.1 hcell
    rw [openSigns_head hhead] at h ⊢
    rw [List.append_assoc, List.singleton_append] at h
    have hends : Sign.EndsInHead (head.map .char) := ⟨[], head, rfl, hhead, by simp⟩
    obtain ⟨rfl, -, rfl⟩ := (List.append_cons_inj_of_notMem (hplain head p) (hplain run p)).1 h
    exact ⟨hends, rfl, not_isAsciiLetter_head?_cutPattern _⟩

/-- A pattern stands in an outline behind the head of its cell, and no letter stands behind it. -/
def PatternsApart (signs : List Sign) : Prop :=
  ∀ a p b, signs = a ++ .pattern p :: b →
    Sign.EndsInHead a ∧ ∀ c, b.head? = some (.char c) → isAsciiLetter c = false

theorem patternsApart_outline (cs : List Char) : PatternsApart (outline cs) := by
  induction cs using outline.induct with
  | case1 cs h =>
    intro a p b hsigns
    rw [outline_of_nil h] at hsigns
    obtain ⟨hends, rfl, hletter⟩ := openSigns_append_eq hsigns
    exact ⟨hends, fun c hc => hletter c (by simpa using hc)⟩
  | case2 cs separator after h ih =>
    intro a p b hsigns
    obtain ⟨hs, hrest, -⟩ := piecesBy_of_dropWhile_cons h
    rw [outline_of_cons h] at hsigns
    -- A pattern belongs to the first cell, or to what follows the separator.
    rcases append_cons_eq_append_cons (by simp) hsigns with ⟨m, hfirst, rfl⟩ | ⟨m, rfl, hafter⟩
    · obtain ⟨hends, rfl, hletter⟩ := openSigns_append_eq hfirst
      refine ⟨hends, fun c hc => hletter c ?_⟩
      rw [hrest]
      generalize (openSigns cs).2.takeWhile (fun c => !isSeparator c) = run at hc ⊢
      cases run <;> simpa using hc
    · obtain ⟨hends, hletter⟩ := ih m p b hafter
      exact ⟨hends.append hs, hletter⟩

/-! ## What stands behind the heads of cells -/

theorem char_not_mem_openSigns (cs : List Char) {c : Char} (hc : isSeparator c = true) :
    Sign.char c ∉ (openSigns cs).1 := by
  cases hcell : cellHead? cs with
  | none =>
    have hopen : openSigns cs = ([], cs) := by simp [openSigns, hcell]
    rw [hopen]
    exact List.not_mem_nil
  | some cell =>
    obtain ⟨head, after⟩ := cell
    obtain ⟨hhead, rfl⟩ := cellHead?_eq_some_iff.1 hcell
    rw [openSigns_head hhead]
    exact char_not_mem_head hhead hc _

/-- A head up to the next separator is that of the first cell, and its pattern stands behind it. -/
theorem head?_of_openSigns {cs run : List Char} {a b : List Sign} (hrun : run <+: (openSigns cs).2)
    (hplain : ∀ c ∈ run, isSeparator c = false) (h : (openSigns cs).1 ++ run.map .char = a ++ b)
    (hends : Sign.EndsInHead a) : ∃ p, b.head? = some (.pattern p) := by
  obtain ⟨head, hhead, rfl⟩ := hends.exists_head fun c hc hmem => by
    have hin : Sign.char c ∈ (openSigns cs).1 ++ run.map .char := h ▸ List.mem_append_left b hmem
    rcases List.mem_append.1 hin with hin | hin
    · exact char_not_mem_openSigns cs hc hin
    · rw [hplain c (by simpa using hin)] at hc
      cases hc
  have hinj : ∀ {xs ys : List Char}, xs.map Sign.char = ys.map Sign.char → xs = ys :=
    fun heq => List.map_injective_iff.2 (fun _ _ => Sign.char.inj) heq
  cases hcell : cellHead? cs with
  | none =>
    have hopen : openSigns cs = ([], cs) := by simp [openSigns, hcell]
    rw [hopen] at h hrun
    obtain ⟨xs, ys, rfl, hxs, -⟩ := List.map_eq_append_iff.1 h
    obtain ⟨rest, rfl⟩ := hrun
    rw [hinj hxs, List.append_assoc, cellHead?_eq_some_iff.2 ⟨hhead, rfl⟩] at hcell
    cases hcell
  | some cell =>
    obtain ⟨first, after⟩ := cell
    obtain ⟨hfirst, rfl⟩ := cellHead?_eq_some_iff.1 hcell
    rw [openSigns_head hfirst, List.append_assoc, List.singleton_append] at h
    generalize String.ofList (trimEndChars (cutPattern (trimStartChars after)).1) = p at h
    rcases List.append_eq_append_iff.1 h with ⟨m, hm, hb⟩ | ⟨m, hm, rfl⟩
    · cases m with
      | nil => exact ⟨p, by rw [← List.nil_append b, ← hb]; rfl⟩
      | cons sign m =>
        obtain ⟨rfl, -⟩ := List.cons.inj hb
        have hplain : Sign.pattern p ∉ head.map Sign.char := by simp
        exact absurd (by rw [hm]; simp) hplain
    · -- A cell has one head only.
      obtain ⟨xs, ys, rfl, hxs, rfl⟩ := List.map_eq_append_iff.1 hm
      rw [hinj hxs, List.append_assoc, cellHead?_eq_some_iff.2 ⟨hhead, rfl⟩] at hcell
      obtain rfl : ys = [] := by simpa using congrArg Prod.fst (Option.some.inj hcell.symm)
      exact ⟨p, rfl⟩

/-- No head of a cell is without its pattern. -/
theorem head?_of_endsInHead {cs : List Char} {a b : List Sign} (h : outline cs = a ++ b) (hends : Sign.EndsInHead a) :
    ∃ p, b.head? = some (.pattern p) := by
  induction cs using outline.induct generalizing a with
  | case1 cs hrest =>
    rw [outline_of_nil hrest] at h
    have hplain : ∀ c ∈ (openSigns cs).2, isSeparator c = false := by simpa using hrest
    exact head?_of_openSigns (List.prefix_refl _) hplain h hends
  | case2 cs separator after hrest ih =>
    obtain ⟨hs, -, -⟩ := piecesBy_of_dropWhile_cons hrest
    rw [outline_of_cons hrest] at h
    have hrun : ((openSigns cs).2.takeWhile fun c => !isSeparator c) <+: (openSigns cs).2 := List.takeWhile_prefix _
    have hplain : ∀ c ∈ (openSigns cs).2.takeWhile fun c => !isSeparator c, isSeparator c = false := fun c hc => by
      simpa using List.mem_takeWhile_imp hc
    rcases List.append_eq_append_iff.1 h with ⟨m, rfl, hm⟩ | ⟨m, hfirst, rfl⟩
    · cases m with
      | nil =>
        rw [List.append_nil] at hends
        obtain ⟨p, hp⟩ := head?_of_openSigns hrun hplain (List.append_nil _).symm hends
        cases hp
      | cons sign m =>
        obtain ⟨rfl, hafter⟩ := List.cons.inj hm
        exact ih hafter (hends.of_append hs)
    · obtain ⟨p, hp⟩ := head?_of_openSigns hrun hplain hfirst hends
      obtain ⟨more, rfl⟩ := List.head?_eq_some_iff.1 hp
      exact ⟨p, rfl⟩

/-! ## Where marks stand -/

/-- A mark without its first underscore and its last. -/
def markInside (n : Nat) : List Char := patternMark.toList.tail ++ (showNat n).toList ++ ['_']

theorem mark_eq (n : Nat) : (mark n).toList = '_' :: (markInside n ++ ['_']) := by
  simp [mark, markInside, patternMark, patternMarkEnd]

theorem mark_starts (n : Nat) : ['_', '_', 'R'] <+: (mark n).toList := by
  simp [mark, patternMark]

theorem colon_not_mem_mark (n : Nat) : ':' ∉ (mark n).toList := not_mem_mark rfl rfl (by decide) n

theorem showNat_injective {m n : Nat} (h : showNat m = showNat n) : m = n := by
  have hm := natBelow?_showNat (Nat.lt_succ_of_le (Nat.le_max_left m n))
  rw [h, natBelow?_showNat (Nat.lt_succ_of_le (Nat.le_max_right m n))] at hm
  exact (Option.some.inj hm).symm

/-- Where a mark stands no other mark does. -/
theorem mark_prefix_iff {m n : Nat} {rest : List Char} : (mark m).toList <+: (mark n).toList ++ rest ↔ m = n := by
  constructor
  · rintro ⟨more, hmore⟩
    simp only [mark, String.toList_append, List.append_assoc, List.append_cancel_left_eq] at hmore
    have hstop : ∀ rest : List Char, ∀ c ∈ (patternMarkEnd.toList ++ rest).head?, isAsciiDigit c = false := by
      rintro rest _ ⟨⟩
      rfl
    have hdigits := congrArg (List.takeWhile isAsciiDigit) hmore
    rw [takeWhile_run (fun c => isAsciiDigit_of_mem_showNat) (hstop _),
      takeWhile_run (fun c => isAsciiDigit_of_mem_showNat) (hstop _), String.toList_inj] at hdigits
    exact showNat_injective hdigits
  · rintro rfl
    exact List.prefix_append _ _

/-- No two underscores stand inside a mark. -/
theorem isChain_markInside (n : Nat) : (markInside n).IsChain fun c d => ¬ (c = '_' ∧ d = '_') := by
  have hdigit : ∀ c ∈ (showNat n).toList, c ≠ '_' := by
    rintro _ hc rfl
    cases isAsciiDigit_of_mem_showNat hc
  have hdigits : (showNat n).toList.IsChain fun c d => ¬ (c = '_' ∧ d = '_') :=
    (List.pairwise_of_forall_mem_list fun c hc d _ (h : c = '_' ∧ d = '_') => hdigit c hc h.1).isChain
  unfold markInside
  refine List.isChain_append.2 ⟨List.isChain_append.2 ⟨by decide, hdigits, ?_⟩, List.isChain_singleton _, ?_⟩
  · rintro c - d hd ⟨-, rfl⟩
    exact hdigit '_' (List.mem_of_mem_head? hd) rfl
  · rintro c hc d - ⟨rfl, -⟩
    have hne : (showNat n).toList ≠ [] := by
      rw [showNat, String.toList_ofList]
      exact Nat.toDigits_ne_nil
    rw [List.getLast?_append_of_ne_nil _ hne] at hc
    exact hdigit '_' (List.mem_of_mem_getLast? hc) rfl

/-- No mark begins inside a mark, if no letter stands behind it. -/
theorem not_mark_prefix_inside {m n : Nat} {v rest : List Char} (hv : v <:+ markInside n) (hne : v ≠ [])
    (hrest : ∀ c ∈ rest.head?, isAsciiLetter c = false) : ¬ (mark m).toList <+: v ++ '_' :: rest := by
  intro h
  have hstart := (mark_starts m).trans h
  have hchain := (isChain_markInside n).suffix hv
  match v, hne with
  | [c], _ =>
    cases rest with
    | nil => simp at hstart
    | cons d rest =>
      have hletter := (List.cons_prefix_cons.1 (List.cons_prefix_cons.1 hstart).2).2
      obtain ⟨rfl, -⟩ := List.cons_prefix_cons.1 hletter
      cases hrest 'R' rfl
  | c :: d :: v, _ =>
    obtain ⟨hc, hd⟩ := List.cons_prefix_cons.1 hstart
    obtain ⟨hd, -⟩ := List.cons_prefix_cons.1 hd
    exact (List.isChain_cons_cons.1 hchain).1 ⟨hc.symm, hd.symm⟩

/-- A mark stands once where it is put, and once more if the text behind another one goes on as it does. -/
theorem occurrences_mark_append (m n : Nat) {rest : List Char} (hrest : ∀ c ∈ rest.head?, isAsciiLetter c = false) :
    occurrences (mark m).toList ((mark n).toList ++ rest) = occurrences (mark m).toList rest +
      (if (mark m).toList.tail <+: rest then 1 else 0) + if m = n then 1 else 0 := by
  have hlast : (mark m).toList <+: '_' :: rest ↔ (mark m).toList.tail <+: rest := by
    rw [mark_eq, List.tail_cons, List.cons_prefix_cons]
    simp
  have hfirst : (mark m).toList <+: (mark n).toList ++ rest ↔ m = n := mark_prefix_iff
  rw [mark_eq n] at hfirst ⊢
  simp only [List.cons_append, List.append_assoc, List.nil_append] at hfirst ⊢
  rw [occurrences, occurrences_append_of_not fun v hv hne => not_mark_prefix_inside hv hne hrest, occurrences]
  simp only [hfirst, hlast]

/-! ## Marks in a lifted rule -/

/-- The end of an outline whose marks can be told from its characters: a colon stands before each of its patterns, no
letter behind them, and the characters hold no mark. -/
structure Liftable (signs : List Sign) : Prop where
  colon : ∀ a p b, signs = a ++ .pattern p :: b → a ≠ [] → a.getLast? = some (.char ':')
  closed : ∀ a p b, signs = a ++ .pattern p :: b → ∀ c, b.head? = some (.char c) → isAsciiLetter c = false
  plain : ¬ patternMark.toList.map .char <:+: signs

namespace Liftable

variable {sign : Sign} {signs : List Sign}

theorem tail (h : Liftable (sign :: signs)) : Liftable signs where
  colon a p b hsigns hne := by
    have hlast := h.colon (sign :: a) p b (by rw [hsigns, List.cons_append]) (List.cons_ne_nil _ _)
    obtain ⟨x, a, rfl⟩ := List.exists_cons_of_ne_nil hne
    rwa [List.getLast?_cons_cons] at hlast
  closed a p b hsigns := h.closed (sign :: a) p b (by rw [hsigns, List.cons_append])
  plain hpart := h.plain (hpart.trans (List.suffix_cons sign signs).isInfix)

/-- A pattern stands right behind no other sign than a colon. -/
theorem eq_colon (h : Liftable (sign :: signs)) {p : String} (hp : signs.head? = some (.pattern p)) :
    sign = .char ':' := by
  obtain ⟨b, rfl⟩ := List.head?_eq_some_iff.1 hp
  simpa using h.colon [sign] p b rfl (List.cons_ne_nil _ _)

/-- No letter is shown behind a pattern. -/
theorem not_isAsciiLetter_head?_shown {p : String} (h : Liftable (.pattern p :: signs)) (n : Nat) :
    ∀ c ∈ (Sign.shown n signs).head?, isAsciiLetter c = false := by
  intro c hc
  cases signs with
  | nil => cases hc
  | cons sign signs =>
    cases sign with
    | char d =>
      obtain rfl : d = c := by simpa [Sign.shown] using hc
      exact h.closed [] p _ rfl d rfl
    | pattern q => cases h.eq_colon rfl

/-- What holds no colon does not reach into a mark. -/
theorem prefix_shown_iff {word : List Char} (hword : ':' ∉ word) (h : Liftable signs)
    (hfirst : ∀ p, signs.head? ≠ some (.pattern p)) (n : Nat) :
    word <+: Sign.shown n signs ↔ word.map .char <+: signs := by
  induction word generalizing signs with
  | nil => simp
  | cons c word ih =>
    obtain ⟨hc, hword⟩ : ':' ≠ c ∧ ':' ∉ word := by simpa using hword
    cases signs with
    | nil => simp [Sign.shown]
    | cons sign signs =>
      cases sign with
      | pattern p => exact absurd rfl (hfirst p)
      | char d =>
        rw [Sign.shown, List.cons_prefix_cons, List.map_cons, List.cons_prefix_cons, Sign.char.injEq]
        refine and_congr_right fun hd => ih hword h.tail fun p hp => hc ?_
        rw [hd]
        exact (Sign.char.inj (h.eq_colon hp)).symm

theorem not_mark_begins {c : Char} (h : Liftable (.char c :: signs)) (m n : Nat) :
    ¬ (mark m).toList <+: c :: Sign.shown n signs := by
  intro hmark
  have hsigns := (h.prefix_shown_iff (colon_not_mem_mark m) (by simp) n).1 hmark
  have hstart : patternMark.toList <+: (mark m).toList := by
    rw [mark, String.toList_append, String.toList_append, List.append_assoc]
    exact List.prefix_append _ _
  exact h.plain ((hstart.map _).trans hsigns).isInfix

end Liftable

/-- A mark stands in a lifted rule where its pattern was, and once more behind each pattern behind which the rule goes
on as the mark does. -/
theorem occurrences_mark_shown {signs : List Sign} (h : Liftable signs) (m n : Nat) :
    occurrences (mark m).toList (Sign.shown n signs) = Sign.followed (mark m).toList.tail signs +
      if n ≤ m ∧ m < n + (Sign.patterns signs).length then 1 else 0 := by
  induction signs generalizing n with
  | nil =>
    rw [if_neg (by simp)]
    rfl
  | cons sign signs ih =>
    cases sign with
    | char c =>
      rw [Sign.shown, occurrences_cons_of_not (h.not_mark_begins m n), ih h.tail, Sign.followed, Sign.patterns_char]
    | pattern p =>
      have hcolon : ':' ∉ (mark m).toList.tail := fun hc => colon_not_mem_mark m (List.mem_of_mem_tail hc)
      have hfirst : ∀ q, signs.head? ≠ some (.pattern q) := fun q hq => by cases h.eq_colon hq
      have hcount : ((if n + 1 ≤ m ∧ m < n + 1 + (Sign.patterns signs).length then 1 else 0) + if m = n then 1 else 0) =
          if n ≤ m ∧ m < n + ((Sign.patterns signs).length + 1) then 1 else 0 := by
        split <;> split <;> split <;> omega
      rw [Sign.shown, occurrences_mark_append m n (h.not_isAsciiLetter_head?_shown (n + 1)), ih h.tail, Sign.followed,
        Sign.patterns_pattern, List.length_cons, ← hcount]
      simp only [h.tail.prefix_shown_iff hcolon hfirst (n + 1)]
      omega

/-! ## Putting patterns back -/

/-- A text with the pattern in the place of each mark of the stash, from left to right. -/
def putBack (stash : PatternStash) : List Char → List Char
  | [] => []
  | c :: cs =>
    match (List.range stash.patterns.length).find? fun n => (mark n).toList.isPrefixOf (c :: cs) with
    | some n => (stash.restore (mark n)).toList ++ putBack stash (cs.drop ((mark n).toList.length - 1))
    | none => c :: putBack stash cs
termination_by cs => cs.length
decreasing_by
  · rw [List.length_drop, List.length_cons]
    omega
  · exact Nat.lt_succ_self _

theorem putBack_cons {stash : PatternStash} {c : Char} {cs : List Char} (h : ∀ n, ¬ (mark n).toList <+: c :: cs) :
    stash.putBack (c :: cs) = c :: stash.putBack cs := by
  have hnone : (List.range stash.patterns.length).find? (fun n => (mark n).toList.isPrefixOf (c :: cs)) = none :=
    List.find?_eq_none.2 fun n _ => by simpa [List.isPrefixOf_iff_prefix] using h n
  rw [putBack, hnone]

theorem putBack_mark {stash : PatternStash} {n : Nat} (hn : n < stash.patterns.length) (cs : List Char) :
    stash.putBack ((mark n).toList ++ cs) = (stash.restore (mark n)).toList ++ stash.putBack cs := by
  have hfind : (List.range stash.patterns.length).find? (fun m => (mark m).toList.isPrefixOf ((mark n).toList ++ cs)) =
      some n := by
    refine List.find?_range_eq_some.2 ⟨?_, List.mem_range.2 hn, fun m hm => ?_⟩
    · rw [List.isPrefixOf_iff_prefix, mark_prefix_iff]
    · rw [Bool.not_eq_true', Bool.eq_false_iff, Ne, List.isPrefixOf_iff_prefix, mark_prefix_iff]
      exact Nat.ne_of_lt hm
  have hmark := mark_eq n
  rw [hmark] at hfind ⊢
  rw [List.cons_append] at hfind ⊢
  rw [putBack, hfind]
  simp [hmark]

theorem putBack_shown {signs : List Sign} (h : Liftable signs) {stash : PatternStash} {before : List String}
    (hstash : stash.patterns = before ++ Sign.patterns signs) :
    stash.putBack (Sign.shown before.length signs) = Sign.text signs := by
  induction signs generalizing before with
  | nil => rw [Sign.shown, putBack]; rfl
  | cons sign signs ih =>
    cases sign with
    | char c =>
      rw [Sign.shown, putBack_cons fun n => h.not_mark_begins n _, ih h.tail hstash, Sign.text]
    | pattern p =>
      have hn : before.length < stash.patterns.length := by rw [hstash]; simp
      have hp : stash.patterns[before.length]? = some p := by rw [hstash]; simp
      have hnext : stash.patterns = (before ++ [p]) ++ Sign.patterns signs := by rw [hstash]; simp
      have hrest := ih h.tail hnext
      rw [List.length_append, List.length_singleton] at hrest
      rw [Sign.shown, putBack_mark hn, restore_mark hp, hrest, Sign.text]

/-! ## A rule and its lifted form -/

theorem liftable_outline {cs : List Char} (h : occurs patternMark.toList cs = false) : Liftable (outline cs) where
  colon a p b hsigns _ := (patternsApart_outline cs a p b hsigns).1.getLast?_eq
  closed a p b hsigns := (patternsApart_outline cs a p b hsigns).2
  plain hpart := by
    rw [occurs_iff.2 ((outlines_outline cs).isInfix hpart)] at h
    cases h

/-- A lifted rule shows an outline of the rule, with a pattern just behind each head of a cell, and each pattern is what
its mark stands for. A mark stands where its pattern was, in order, and else only where its last part follows the mark
of another pattern. To put the patterns back is to get the rule without the blanks about them. -/
theorem lift_lossless {rule : String} (hmark : occurs patternMark.toList rule.toList = false) :
    ∃ signs, Sign.Outlines signs rule.toList ∧
      (∀ a b, signs = a ++ b → (Sign.EndsInHead a ↔ ∃ p, b.head? = some (.pattern p))) ∧
      (lift {} rule).1.patterns = Sign.patterns signs ∧ (lift {} rule).2.toList = Sign.shown 0 signs ∧
      (lift {} rule).1.putBack (lift {} rule).2.toList = Sign.text signs ∧
      ∀ n p, (lift {} rule).1.patterns[n]? = some p → (lift {} rule).1.restore (mark n) = p ∧
        occurrences (mark n).toList (lift {} rule).2.toList = 1 + Sign.followed (mark n).toList.tail signs := by
  have hliftable := liftable_outline hmark
  rw [lift_eq_outline]
  have hheads : ∀ a b, outline rule.toList = a ++ b → (Sign.EndsInHead a ↔ ∃ p, b.head? = some (.pattern p)) := by
    refine fun a b hsigns => ⟨head?_of_endsInHead hsigns, ?_⟩
    rintro ⟨p, hp⟩
    obtain ⟨more, rfl⟩ := List.head?_eq_some_iff.1 hp
    exact (patternsApart_outline _ a p more hsigns).1
  refine ⟨outline rule.toList, outlines_outline _, hheads, rfl, String.toList_ofList, ?_, fun n p hp =>
    ⟨restore_mark hp, ?_⟩⟩
  · rw [String.toList_ofList]
    have hstash : (PatternStash.mk (Sign.patterns (outline rule.toList))).patterns =
        [] ++ Sign.patterns (outline rule.toList) := rfl
    exact putBack_shown hliftable hstash
  · have hn : n < (Sign.patterns (outline rule.toList)).length := (List.getElem?_eq_some_iff.1 hp).1
    rw [String.toList_ofList, occurrences_mark_shown hliftable, if_pos ⟨Nat.zero_le n, by omega⟩, Nat.add_comm]

/-- The first pattern holds a separator, and the blanks about it are gone from its outline. -/
theorem lift_lossless_separator : occurs patternMark.toList "re: /a;b/i ; string".toList = false ∧
    (lift {} "re: /a;b/i ; string").1.patterns[0]? = some "/a;b/i" ∧
    (lift {} "re: /a;b/i ; string").1.restore (mark 0) = "/a;b/i" ∧
    ∃ signs, Sign.Outlines signs "re: /a;b/i ; string".toList ∧
      (lift {} "re: /a;b/i ; string").1.putBack (lift {} "re: /a;b/i ; string").2.toList = Sign.text signs := by
  have hmark : occurs patternMark.toList "re: /a;b/i ; string".toList = false := by decide +kernel
  have hpattern : (lift {} "re: /a;b/i ; string").1.patterns[0]? = some "/a;b/i" := by
    have hcell : outline "re: /a;b/i ; string".toList = _ ++ .char ';' :: outline " string".toList :=
      outline_of_cons (by decide +kernel)
    rw [lift_eq_outline, hcell, outline_of_nil (by decide +kernel)]
    decide +kernel
  obtain ⟨signs, houtlines, -, -, -, hback, hmarks⟩ := lift_lossless hmark
  exact ⟨hmark, hpattern, (hmarks 0 _ hpattern).1, signs, houtlines, hback⟩

/-- The rule goes on behind its first pattern as the mark of the second one does. -/
theorem mark_imitated : occurs patternMark.toList "re:/a/_RULEFORM_REGEX_VALUE_1__;re:/b/".toList = false ∧
    (lift {} "re:/a/_RULEFORM_REGEX_VALUE_1__;re:/b/").1.patterns[1]? = some "/b/" ∧
    occurrences (mark 1).toList (lift {} "re:/a/_RULEFORM_REGEX_VALUE_1__;re:/b/").2.toList = 2 := by
  have hcell : outline "re:/a/_RULEFORM_REGEX_VALUE_1__;re:/b/".toList = _ ++ .char ';' :: outline "re:/b/".toList :=
    outline_of_cons (by decide +kernel)
  rw [lift_eq_outline, hcell, outline_of_nil (by decide +kernel)]
  decide +kernel

end PatternStash

end FieldRules
