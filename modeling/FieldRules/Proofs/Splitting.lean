import FieldRules.Proofs.Cells
import Mathlib.Data.List.Basic
import Mathlib.Data.List.Infix
/-!
# Splitting and joining

What is joined with a sign and split at it again is what it was (`pieces_join`), and what is cut out of a text is a part
of it. Numbers are read back as they are written (`natBelow?_showNat`).
-/

namespace FieldRules.Text

/-! ## Joining and splitting again -/

theorem piecesBy_eq_splitOnP (p : Char → Bool) (cs : List Char) : piecesBy p cs = cs.splitOnP p := by
  induction cs with
  | nil => rfl
  | cons c cs ih =>
    rw [piecesBy, ih, List.splitOnP_cons_eq_if_modifyHead]
    split
    · rfl
    · cases h : cs.splitOnP p with
      | nil => exact absurd h (List.splitOnP_ne_nil p cs)
      | cons w ws => rfl

theorem piecesBy_append_cons {p : Char → Bool} {sep : Char} (h : p sep = true) (cs rest : List Char) :
    piecesBy p (cs ++ sep :: rest) = piecesBy p cs ++ piecesBy p rest := by
  simp only [piecesBy_eq_splitOnP, List.splitOnP_append_cons cs rest h]

theorem piecesBy_of_dropWhile_nil {p : Char → Bool} {cs : List Char} (h : (cs.dropWhile fun c => !p c) = []) :
    piecesBy p cs = [cs] :=
  piecesBy_of_not fun c hc => by simpa using List.dropWhile_eq_nil_iff.1 h c hc

theorem piecesBy_of_dropWhile_cons {p : Char → Bool} {cs rest : List Char} {sep : Char}
    (h : (cs.dropWhile fun c => !p c) = sep :: rest) :
    p sep = true ∧ cs = (cs.takeWhile fun c => !p c) ++ sep :: rest ∧
      piecesBy p cs = (cs.takeWhile fun c => !p c) :: piecesBy p rest := by
  have hsep : p sep = true := by
    have hhead := List.head?_dropWhile_not (fun c => !p c) cs
    rw [h] at hhead
    simpa using hhead
  have hfirst : ∀ c ∈ cs.takeWhile fun c => !p c, p c = false := fun c hc => by
    simpa using List.mem_takeWhile_imp hc
  have hcs : cs = (cs.takeWhile fun c => !p c) ++ sep :: rest := by rw [← h, List.takeWhile_append_dropWhile]
  refine ⟨hsep, hcs, ?_⟩
  conv_lhs => rw [hcs]
  exact piecesBy_append hfirst hsep rest

@[simp] theorem join_nil (sep : String) : join sep [] = "" := rfl

@[simp] theorem join_singleton (sep s : String) : join sep [s] = s := by simp [join]

@[simp] theorem toList_join (sep : String) (xs : List String) :
    (join sep xs).toList = sep.toList.intercalate (xs.map String.toList) :=
  String.toList_intercalate

theorem join_append {sep : String} {xs ys : List String} (hxs : xs ≠ []) (hys : ys ≠ []) :
    join sep (xs ++ ys) = join sep xs ++ sep ++ join sep ys :=
  String.intercalate_append_of_ne_nil hxs hys

theorem not_mem_intercalate {α : Type} {x sep : α} (hx : x ≠ sep) {parts : List (List α)} (h : ∀ p ∈ parts, x ∉ p) :
    x ∉ [sep].intercalate parts := by
  induction parts with
  | nil => simp
  | cons p parts ih =>
    obtain ⟨hp, hparts⟩ := List.forall_mem_cons.1 h
    cases parts with
    | nil => simpa using hp
    | cons q parts => simp [List.intercalate_cons_cons, hp, hx, ih hparts]

/-- Texts without a sign are found again between the signs that join them. -/
theorem pieces_join {sep : Char} {xs : List String} (h : ∀ x ∈ xs, sep ∉ x.toList) (hxs : xs ≠ []) :
    pieces sep (join (String.singleton sep) xs) = xs := by
  have hsplit : List.splitOn sep ([sep].intercalate (xs.map String.toList)) = xs.map String.toList :=
    List.splitOn_intercalate sep (by simpa using h) (by simpa using hxs)
  rw [pieces, toList_join, piecesBy_eq_splitOnP, String.toList_singleton]
  rw [List.splitOn] at hsplit
  simp [hsplit]

/-- What a sign cuts out of a text joins to that text again. -/
theorem join_pieces (sep : Char) (s : String) : join (String.singleton sep) (pieces sep s) = s := by
  have hsame : String.toList ∘ String.ofList = id := funext fun cs => String.toList_ofList
  rw [← String.toList_inj, toList_join, pieces, piecesBy_eq_splitOnP, List.map_map, hsame, List.map_id,
    String.toList_singleton]
  exact List.intercalate_splitOn sep

theorem singleton_semicolon : String.singleton ';' = ";" := by decide

theorem singleton_bar : String.singleton '|' = "|" := by decide

theorem cutOnce_ofList_append {sep : Char} {cs : List Char} (h : sep ∉ cs) (rest : List Char) :
    cutOnce sep (String.ofList (cs ++ sep :: rest)) = some (String.ofList cs, String.ofList rest) := by
  have hnone : ∀ c ∈ cs, (c == sep) = false := fun c hc => by simpa using fun he : c = sep => h (he ▸ hc)
  rw [cutOnce, String.toList_ofList, cutAt_append hnone (by simp), Option.map_some]

/-! ## Parts of a text -/

section
variable {α : Type} {p : α → Bool}

/-- What holds no separator lies within the first piece. -/
theorem exists_splitOnP_append {xs : List α} (h : ∀ x ∈ xs, p x = false) (ys : List α) :
    ∃ w ws, (xs ++ ys).splitOnP p = (xs ++ w) :: ws := by
  induction xs with
  | nil => exact List.exists_cons_of_ne_nil (List.splitOnP_ne_nil p ys)
  | cons x xs ih =>
    obtain ⟨hx, hxs⟩ := List.forall_mem_cons.1 h
    obtain ⟨w, ws, hw⟩ := ih hxs
    exact ⟨w, ws, by simp [List.splitOnP_cons_eq_if_modifyHead, hx, hw]⟩

/-- A part without separators lies within one piece. -/
theorem exists_infix_splitOnP {xs l : List α} (hxs : ∀ x ∈ xs, p x = false) (h : xs <:+: l) :
    ∃ w ∈ l.splitOnP p, xs <:+: w := by
  obtain ⟨before, after, rfl⟩ := h
  rw [List.append_assoc]
  induction before with
  | nil =>
    obtain ⟨w, ws, hw⟩ := exists_splitOnP_append hxs after
    rw [List.nil_append, hw]
    exact ⟨xs ++ w, .head _, (List.prefix_append xs w).isInfix⟩
  | cons d before ih =>
    obtain ⟨w, hw, hin⟩ := ih
    obtain ⟨v, vs, hv⟩ := List.exists_cons_of_ne_nil (List.splitOnP_ne_nil p (before ++ (xs ++ after)))
    rw [hv] at hw
    rw [List.cons_append, List.splitOnP_cons_eq_if_modifyHead, hv]
    split
    · exact ⟨w, .tail _ hw, hin⟩
    · rcases List.mem_cons.1 hw with rfl | hw
      · exact ⟨d :: w, .head _, hin.trans (List.suffix_cons d w).isInfix⟩
      · exact ⟨w, .tail _ hw, hin⟩

/-- Splitting what a sign joins is splitting each part. -/
theorem splitOn_intercalate_eq_flatMap [BEq α] [LawfulBEq α] {sep : α} {parts : List (List α)} (hne : parts ≠ []) :
    List.splitOn sep ([sep].intercalate parts) = parts.flatMap (List.splitOn sep) := by
  induction parts with
  | nil => exact absurd rfl hne
  | cons xs parts ih =>
    cases parts with
    | nil => simp
    | cons ys parts =>
      rw [List.intercalate_cons_cons, List.append_assoc, List.singleton_append, List.flatMap_cons,
        ← ih (List.cons_ne_nil ys parts)]
      exact List.splitOnP_append_cons xs _ (by simp)

/-- No piece holds a separator. -/
theorem not_of_mem_splitOnP {l w : List α} (h : w ∈ l.splitOnP p) : ∀ x ∈ w, p x = false := by
  induction l generalizing w with
  | nil =>
    rw [List.splitOnP_nil, List.mem_singleton] at h
    simp [h]
  | cons d l ih =>
    obtain ⟨v, vs, hv⟩ := List.exists_cons_of_ne_nil (List.splitOnP_ne_nil p l)
    rw [List.splitOnP_cons_eq_if_modifyHead, hv] at h
    rw [hv] at ih
    split at h
    · rcases List.mem_cons.1 h with rfl | h
      · simp
      · exact ih h
    · rename_i hd
      rcases List.mem_cons.1 h with rfl | h
      · exact List.forall_mem_cons.2 ⟨by simpa using hd, ih (.head _)⟩
      · exact ih (.tail _ h)

end

theorem exists_piecesBy_append {p : Char → Bool} {xs : List Char} (h : ∀ c ∈ xs, p c = false) (ys : List Char) :
    ∃ w ws, piecesBy p (xs ++ ys) = (xs ++ w) :: ws := by
  rw [piecesBy_eq_splitOnP]
  exact exists_splitOnP_append h ys

theorem exists_mem_piecesBy {p : Char → Bool} {c : Char} {cs : List Char} (hc : p c = false) (h : c ∈ cs) :
    ∃ w ∈ piecesBy p cs, c ∈ w := by
  have hin : [c] <:+: cs := (List.singleton_infix_iff c cs).2 h
  obtain ⟨w, hw, hcw⟩ := exists_infix_splitOnP (List.forall_mem_singleton.2 hc) hin
  exact ⟨w, piecesBy_eq_splitOnP p cs ▸ hw, (List.singleton_infix_iff c w).1 hcw⟩

/-- The first piece begins the text, and the others are parts of it. -/
theorem piecesBy_parts {p : Char → Bool} {cs w : List Char} {ws : List (List Char)} (h : piecesBy p cs = w :: ws) :
    w <+: cs ∧ ∀ v ∈ ws, v <:+: cs := by
  induction cs generalizing w ws with
  | nil =>
    cases h
    simp
  | cons c cs ih =>
    have hsuffix : cs <:+: c :: cs := (List.suffix_cons c cs).isInfix
    obtain ⟨v, vs, hv⟩ := List.exists_cons_of_ne_nil (piecesBy_ne_nil p cs)
    obtain ⟨hfirst, hrest⟩ := ih hv
    rw [piecesBy, hv] at h
    split at h
    · cases h
      refine ⟨List.nil_prefix, List.forall_mem_cons.2 ⟨hfirst.isInfix.trans hsuffix, ?_⟩⟩
      exact fun u hu => (hrest u hu).trans hsuffix
    · cases h
      exact ⟨List.cons_prefix_cons.2 ⟨rfl, hfirst⟩, fun u hu => (hrest u hu).trans hsuffix⟩

theorem isInfix_of_mem_piecesBy {p : Char → Bool} {cs v : List Char} (h : v ∈ piecesBy p cs) : v <:+: cs := by
  obtain ⟨w, ws, hw⟩ := List.exists_cons_of_ne_nil (piecesBy_ne_nil p cs)
  obtain ⟨hfirst, hrest⟩ := piecesBy_parts hw
  rcases List.mem_cons.1 (hw ▸ h) with rfl | hv
  · exact hfirst.isInfix
  · exact hrest v hv

theorem isInfix_of_mem_pieces {sep : Char} {s w : String} (h : w ∈ pieces sep s) : w.toList <:+: s.toList := by
  obtain ⟨v, hv, rfl⟩ := List.mem_map.1 h
  rw [String.toList_ofList]
  exact isInfix_of_mem_piecesBy hv

theorem eq_append_of_cutOnce {sep : Char} {s : String} {parts : String × String} (h : cutOnce sep s = some parts) :
    s.toList = parts.1.toList ++ sep :: parts.2.toList := by
  obtain ⟨⟨x, y⟩, hcut, rfl⟩ := Option.map_eq_some_iff.1 h
  obtain ⟨c, hc, hs, -⟩ := cutAt_eq_some hcut
  rw [hs, String.toList_ofList, String.toList_ofList, eq_of_beq hc]

theorem isInfix_of_cutOnce {sep : Char} {s a b : String} (h : cutOnce sep s = some (a, b)) :
    a.toList <:+: s.toList ∧ b.toList <:+: s.toList := by
  rw [eq_append_of_cutOnce h]
  exact ⟨(List.prefix_append _ _).isInfix, ((List.suffix_cons sep _).trans (List.suffix_append _ _)).isInfix⟩

theorem occurs_iff {needle cs : List Char} : occurs needle cs = true ↔ needle <:+: cs := by
  induction cs with
  | nil => simp [occurs]
  | cons c cs ih => rw [occurs, Bool.or_eq_true, List.isPrefixOf_iff_prefix, ih, List.infix_cons_iff]

theorem occurs_eq_false_of_isInfix {needle xs cs : List Char} (h : occurs needle cs = false) (hxs : xs <:+: cs) :
    occurs needle xs = false := by
  rw [Bool.eq_false_iff, Ne, occurs_iff] at h ⊢
  exact fun hneedle => h (hneedle.trans hxs)

@[simp] theorem afterStart_append (start rest : List Char) : afterStart start (start ++ rest) = some rest := by
  induction start with
  | nil => rfl
  | cons c start ih => simp [afterStart, ih]

@[simp] theorem beforeEnd_append (cs tail : List Char) : beforeEnd tail (cs ++ tail) = some cs := by
  simp [beforeEnd]

/-! ## Runs of a class -/

section
variable {p : Char → Bool} {xs ys : List Char} (hxs : ∀ c ∈ xs, p c = true) (hys : ∀ c ∈ ys.head?, p c = false)
include hxs hys

theorem takeWhile_run : (xs ++ ys).takeWhile p = xs := by
  rw [List.takeWhile_append_of_pos hxs]
  cases ys with
  | nil => simp
  | cons c ys => simp [hys c rfl]

theorem dropWhile_run : (xs ++ ys).dropWhile p = ys := by
  rw [List.dropWhile_append_of_pos hxs]
  cases ys with
  | nil => rfl
  | cons c ys => simp [hys c rfl]

end

section
variable {p : Char → Bool} {c : Char} (hc : p c = false) (xs ys : List Char)
include hc

theorem takeWhile_append_cons : (xs ++ c :: ys).takeWhile p = xs.takeWhile p := by
  rw [List.takeWhile_append]
  split
  · rename_i hall
    rw [List.takeWhile_cons_of_neg (by simp [hc]), List.append_nil]
    exact ((List.takeWhile_prefix p).eq_of_length hall).symm
  · rfl

theorem dropWhile_append_cons : (xs ++ c :: ys).dropWhile p = xs.dropWhile p ++ c :: ys := by
  rw [List.dropWhile_append]
  split
  · rename_i hnil
    rw [List.isEmpty_iff.1 hnil, List.dropWhile_cons_of_neg (by simp [hc]), List.nil_append]
  · rfl

end

/-- What is trimmed off the end is blank. -/
theorem exists_trimEndChars (cs : List Char) :
    ∃ trail, cs = trimEndChars cs ++ trail ∧ ∀ c ∈ trail, isBlank c = true := by
  refine ⟨(cs.reverse.takeWhile isBlank).reverse, ?_, fun c hc => ?_⟩
  · rw [trimEndChars, ← List.reverse_append, List.takeWhile_append_dropWhile, List.reverse_reverse]
  · exact List.mem_takeWhile_imp (List.mem_reverse.1 hc)

/-- The blanks at the end are taken off, and no more. -/
theorem trimEndChars_run {xs ys : List Char} (hxs : ∀ c ∈ xs.getLast?, isBlank c = false)
    (hys : ∀ c ∈ ys, isBlank c = true) : trimEndChars (xs ++ ys) = xs := by
  rw [← List.head?_reverse] at hxs
  rw [trimEndChars, List.reverse_append, dropWhile_run (fun c hc => hys c (List.mem_reverse.1 hc)) hxs,
    List.reverse_reverse]

/-- What is no blank stays, and so does all before it. -/
theorem trimEndChars_append_cons {c : Char} (hc : isBlank c = false) (xs ys : List Char) :
    trimEndChars (xs ++ c :: ys) = xs ++ c :: trimEndChars ys := by
  rw [trimEndChars, List.reverse_append, List.reverse_cons, List.append_assoc, List.singleton_append,
    dropWhile_append_cons hc]
  simp [trimEndChars]

theorem mem_trimChars_of_not_isBlank {c : Char} {cs : List Char} (hc : isBlank c = false) (h : c ∈ cs) :
    c ∈ trimChars cs := by
  obtain ⟨before, after, rfl⟩ := List.append_of_mem h
  rw [trimChars, trimStartChars, dropWhile_append_cons hc, trimEndChars_append_cons hc]
  simp

/-! ## Numbers -/

theorem isAsciiDigit_of_isDigit {c : Char} (h : c.isDigit = true) : isAsciiDigit c = true := by
  simpa [isAsciiDigit, Char.isDigit, Char.le_def] using h

section
variable {c : Char} (h : isAsciiDigit c = true)
include h

theorem not_isBlank_of_isAsciiDigit : isBlank c = false := by
  have hc := isAsciiDigit_iff.1 h
  simp only [isBlank, Bool.or_eq_false_iff, Bool.and_eq_false_iff, decide_eq_false_iff_not, beq_eq_false_iff_ne]
  omega

theorem not_isAsciiLetter_of_isAsciiDigit : isAsciiLetter c = false := by
  have hdigit := isAsciiDigit_iff.1 h
  rw [Bool.eq_false_iff]
  intro hc
  have hletter := isAsciiLetter_iff.1 hc
  omega

end

theorem isAsciiDigit_of_mem_showNat {n : Nat} {c : Char} (h : c ∈ (showNat n).toList) : isAsciiDigit c = true := by
  rw [showNat, String.toList_ofList] at h
  exact isAsciiDigit_of_isDigit (Nat.isDigit_of_mem_toDigits (by decide) (by decide) h)

theorem digits?_showNat (n : Nat) : digits? (showNat n).toList = some n := by
  have hall : (Nat.toDigits 10 n).all isAsciiDigit = true :=
    List.all_eq_true.2 fun c hc => isAsciiDigit_of_isDigit (Nat.isDigit_of_mem_toDigits (by decide) (by decide) hc)
  have hvalue : digitsValue 0 (Nat.toDigits 10 n) = n := Nat.ofDigitChars_toDigits (by decide) (by decide)
  simp [digits?, showNat, Nat.toDigits_ne_nil, hall, hvalue]

theorem natBelow?_showNat_eq (bound n : Nat) : natBelow? bound (showNat n) = if n < bound then some n else none := by
  unfold natBelow?
  split
  · rename_i cs hcs
    have hplus := digits?_showNat n
    rw [hcs] at hplus
    simp [digits?, isAsciiDigit] at hplus
  · simp [digits?_showNat, Option.filter]

theorem natBelow?_showNat {bound n : Nat} (h : n < bound) : natBelow? bound (showNat n) = some n := by
  rw [natBelow?_showNat_eq, if_pos h]

end FieldRules.Text
