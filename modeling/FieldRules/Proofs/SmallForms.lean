import FieldRules.Text.Case
/-!
# Small forms

The small form of a text is its own small form (`lower_lower`): no character that the map to small letters gives is
moved by it again. Of the table that is one fact about its rows (`lowerShifts_images_apart`).
-/

namespace FieldRules

namespace Unicode

/-! ## Rows of a table of shifts -/

/-- A row of a table of shifts. -/
abbrev ShiftRow := Nat × Nat × Nat × Int

namespace ShiftRow

/-- Is the code point a member of the row? -/
def holds (r : ShiftRow) (n : Nat) : Bool := r.1 ≤ n && n ≤ r.2.1 && (n - r.1) % r.2.2.1 == 0

/-- The images of the first and of the last member. -/
def images (r : ShiftRow) : Nat × Nat := (((r.1 : Int) + r.2.2.2).toNat, ((r.2.1 : Int) + r.2.2.2).toNat)

/-- Are the images characters, and none before the small letters of ASCII? -/
def inRange (r : ShiftRow) : Bool :=
  Nat.ble 0x61 r.images.1 && (Nat.blt r.images.2 0xD800 || (Nat.blt 0xDFFF r.images.1 && Nat.blt r.images.2 0x110000))

/-- No image of a member of `r` is a member of `s`: it lies before or behind the row, or between members of it. -/
def apart (r s : ShiftRow) : Bool :=
  Nat.blt r.images.2 s.1 || Nat.blt s.2.1 r.images.1 ||
    ((r.2.2.1 == 2 || r.1 == r.2.1) && s.2.2.1 == 2 && (r.images.1 + s.1) % 2 == 1)

variable {r s : ShiftRow} {n : Nat}

theorem holds_iff : r.holds n = true ↔ (r.1 ≤ n ∧ n ≤ r.2.1) ∧ (n - r.1) % r.2.2.1 = 0 := by simp [holds]

/-- The images are as far from each other as the members. -/
theorem image_eq (hr : r.inRange = true) (h : r.holds n = true) :
    ((n : Int) + r.2.2.2).toNat = r.images.1 + (n - r.1) ∧ ((n : Int) + r.2.2.2).toNat ≤ r.images.2 := by
  rw [holds_iff] at h
  simp only [inRange, images, Bool.and_eq_true, Nat.ble_eq] at hr ⊢
  omega

theorem toNat_image (hr : r.inRange = true) (h : r.holds n = true) :
    (Char.ofNat ((n : Int) + r.2.2.2).toNat).toNat = ((n : Int) + r.2.2.2).toNat := by
  have himage := image_eq hr h
  simp only [inRange, Bool.and_eq_true, Bool.or_eq_true, Nat.ble_eq, Nat.blt_eq] at hr
  have hvalid : ((n : Int) + r.2.2.2).toNat.isValidChar := by
    simp only [Nat.isValidChar]
    omega
  rw [Char.ofNat, dif_pos hvalid]
  rfl

theorem not_holds_image (hr : r.inRange = true) (hapart : r.apart s = true) (h : r.holds n = true) :
    s.holds ((n : Int) + r.2.2.2).toNat = false := by
  have himage := image_eq hr h
  rw [holds_iff] at h
  rw [Bool.eq_false_iff, ne_eq, holds_iff]
  rintro ⟨⟨hfirst, hlast⟩, hstep⟩
  simp only [apart, Bool.or_eq_true, Bool.and_eq_true, Nat.blt_eq, beq_iff_eq] at hapart
  rcases hapart with (hbefore | hbehind) | ⟨⟨htwo | hone, hs⟩, hodd⟩
  · omega
  · omega
  · -- Both rows step by two, from first members of different parity.
    rw [hs] at hstep
    rw [htwo] at h
    omega
  · rw [hs] at hstep
    omega

end ShiftRow

theorem image?_eq_some {t : Shifts} {c d : Char} (h : t.image? c = some d) :
    ∃ r ∈ t, ShiftRow.holds r c.toNat = true ∧ d = Char.ofNat ((c.toNat : Int) + r.2.2.2).toNat := by
  obtain ⟨⟨first, last, step, shift⟩, hr, himage⟩ := List.exists_of_findSome?_eq_some h
  simp only at himage
  split at himage
  · rename_i hholds
    cases himage
    exact ⟨_, hr, hholds, rfl⟩
  · cases himage

theorem image?_eq_none {t : Shifts} {c : Char} (h : ∀ r ∈ t, ShiftRow.holds r c.toNat = false) : t.image? c = none := by
  refine List.findSome?_eq_none_iff.2 fun r hr => if_neg ?_
  exact Bool.eq_false_iff.1 (h r hr)

/-! ## Small characters -/

/-- The one character besides the members of the table that has another small form: İ. -/
def dottedRow : ShiftRow := (0x130, 0x130, 1, 0)

theorem lowerShifts_inRange : lowerShifts.all ShiftRow.inRange = true := by decide +kernel

/-- No image of a row is a member of a row. -/
theorem lowerShifts_images_apart :
    (lowerShifts.all fun r => (dottedRow :: lowerShifts).all (ShiftRow.apart r)) = true := by decide +kernel

/-- A character that is its own small form, wherever it stands. -/
structure IsSmall (c : Char) : Prop where
  toLower : toLower c = [c]
  notSigma : c.toNat ≠ 0x3A3

theorem isSmall_image {c d : Char} (h : lowerShifts.image? c = some d) : IsSmall d ∧ d ≠ '.' := by
  obtain ⟨r, hr, hc, rfl⟩ := image?_eq_some h
  have hrange := List.all_eq_true.1 lowerShifts_inRange r hr
  have himage := ShiftRow.toNat_image hrange hc
  have hout : ∀ s ∈ dottedRow :: lowerShifts,
      ShiftRow.holds s (Char.ofNat ((c.toNat : Int) + r.2.2.2).toNat).toNat = false := by
    intro s hs
    rw [himage]
    exact ShiftRow.not_holds_image hrange (List.all_eq_true.1 (List.all_eq_true.1 lowerShifts_images_apart r hr) s hs) hc
  have hnone := image?_eq_none fun s hs => hout s (List.mem_cons_of_mem _ hs)
  have hdotted : (Char.ofNat ((c.toNat : Int) + r.2.2.2).toNat).toNat ≠ 0x130 := by
    intro hd
    have hrow := hout dottedRow List.mem_cons_self
    rw [hd] at hrow
    cases hrow
  refine ⟨⟨?_, ?_⟩, ?_⟩
  · rw [toLower, if_neg (by simpa using hdotted), hnone]
    rfl
  · intro hd
    have hsigma : lowerShifts.image? (Char.ofNat 0x3A3) = some (Char.ofNat 0x3C3) := by decide +kernel
    rw [← hd, Char.ofNat_toNat, hnone] at hsigma
    cases hsigma
  · intro hd
    have hfirst := (ShiftRow.image_eq hrange hc).1
    rw [← himage, hd] at hfirst
    simp only [ShiftRow.inRange, Bool.and_eq_true, Nat.ble_eq] at hrange
    have hpoint : '.'.toNat = 0x2E := rfl
    omega

theorem isSmall_of_ascii {c : Char} (hfirst : 0x61 ≤ c.toNat) (hlast : c.toNat ≤ 0x7A) : IsSmall c := by
  have hrows : ((dottedRow :: lowerShifts).all fun r => Nat.blt r.2.1 0x61 || Nat.blt 0x7A r.1) = true := by
    decide +kernel
  have hout : ∀ r ∈ dottedRow :: lowerShifts, ShiftRow.holds r c.toNat = false := by
    intro r hr
    have hr := List.all_eq_true.1 hrows r hr
    simp only [Bool.or_eq_true, Nat.blt_eq] at hr
    rw [Bool.eq_false_iff, ne_eq, ShiftRow.holds_iff]
    omega
  refine ⟨?_, by omega⟩
  rw [toLower, if_neg (by simp; omega), image?_eq_none fun r hr => hout r (List.mem_cons_of_mem _ hr)]
  rfl

/-- The small form of a character is small, and a point only if the character is one. The capital sigma has two. -/
theorem isSmall_of_mem_toLower {c d : Char} (hc : c.toNat ≠ 0x3A3) (h : d ∈ toLower c) :
    IsSmall d ∧ (d = '.' → c = '.') := by
  unfold toLower at h
  split at h
  · rcases List.mem_cons.1 h with rfl | h
    · exact ⟨⟨by decide +kernel, by decide⟩, fun hd => absurd hd (by decide)⟩
    · rw [List.mem_singleton.1 h]
      exact ⟨⟨by decide +kernel, by decide⟩, fun hd => absurd hd (by decide)⟩
  · rename_i hdotted
    rw [List.mem_singleton] at h
    cases himage : lowerShifts.image? c with
    | none =>
      obtain rfl : d = c := by rw [h, himage, Option.getD_none]
      refine ⟨⟨?_, hc⟩, id⟩
      rw [toLower, if_neg hdotted, himage, Option.getD_none]
    | some e =>
      obtain rfl : d = e := by rw [h, himage, Option.getD_some]
      exact ⟨(isSmall_image himage).1, fun hd => absurd hd (isSmall_image himage).2⟩

end Unicode

namespace Text

open Unicode

/-! ## Small texts -/

/-- The small form of a text with the characters before it: the first character and the rest. -/
theorem exists_lowerChars_cons (before : List Char) (c : Char) (cs : List Char) : ∃ small,
    lowerChars before (c :: cs) = small ++ lowerChars (c :: before) cs ∧
      small ≠ [] ∧ ∀ d ∈ small, IsSmall d ∧ (d = '.' → c = '.') := by
  refine ⟨_, rfl, ?_⟩
  by_cases hc : c.toNat = 0x3A3
  · simp only [hc, beq_self_eq_true, if_true]
    refine ⟨by simp, fun d hd => ?_⟩
    rw [List.mem_singleton.1 hd]
    split <;> exact ⟨⟨by decide +kernel, by decide⟩, fun hd => absurd hd (by decide)⟩
  · simp only [beq_eq_false_iff_ne.2 hc, Bool.false_eq_true, if_false]
    refine ⟨?_, fun d hd => isSmall_of_mem_toLower hc hd⟩
    unfold toLower
    split <;> simp

theorem isSmall_of_mem_lowerChars {before cs : List Char} {d : Char} (h : d ∈ lowerChars before cs) : IsSmall d := by
  induction cs generalizing before with
  | nil => cases h
  | cons c cs ih =>
    obtain ⟨small, heq, -, hsmall⟩ := exists_lowerChars_cons before c cs
    rw [heq] at h
    rcases List.mem_append.1 h with h | h
    · exact (hsmall d h).1
    · exact ih h

theorem lowerChars_of_isSmall {cs : List Char} (h : ∀ c ∈ cs, IsSmall c) (before : List Char) :
    lowerChars before cs = cs := by
  induction cs generalizing before with
  | nil => rfl
  | cons c cs ih =>
    obtain ⟨hc, hcs⟩ := List.forall_mem_cons.1 h
    simp only [lowerChars, beq_eq_false_iff_ne.2 hc.notSigma, Bool.false_eq_true, if_false, hc.toLower, ih hcs]
    rfl

theorem lower_eq_self_iff {s : String} : lower s = s ↔ ∀ c ∈ s.toList, IsSmall c := by
  constructor
  · intro h c hc
    rw [← h, lower, String.toList_ofList] at hc
    exact isSmall_of_mem_lowerChars hc
  · intro h
    rw [lower, lowerChars_of_isSmall h, String.ofList_toList]

/-- The small form of a text is its own small form. -/
theorem lower_lower (s : String) : lower (lower s) = lower s := lower_eq_self_iff.2 fun c hc => by
  rw [lower, String.toList_ofList] at hc
  exact isSmall_of_mem_lowerChars hc

/-- A small form begins with a point only if the text does. -/
theorem head?_toList_lower {s : String} (h : (lower s).toList.head? = some '.') : s.toList.head? = some '.' := by
  rw [lower, String.toList_ofList] at h
  cases hs : s.toList with
  | nil =>
    rw [hs] at h
    cases h
  | cons c cs =>
    obtain ⟨small, heq, hne, hsmall⟩ := exists_lowerChars_cons [] c cs
    obtain ⟨d, ds, rfl⟩ := List.exists_cons_of_ne_nil hne
    rw [hs, heq] at h
    cases h
    rw [(hsmall '.' List.mem_cons_self).2 rfl]
    rfl

end Text

end FieldRules
