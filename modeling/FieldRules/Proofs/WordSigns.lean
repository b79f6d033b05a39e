import FieldRules.Rule.Cell
/-!
# Characters of words

Where the words of a rule begin and end decides whether it mentions the word that turns it off. The signs and the blanks
lie in gaps between the characters of words (`Text.not_isWord_of_wordGaps`). Of the ASCII characters only letters, digits
and the underscore are in words (`Text.isWord_of_ascii`), so a rule in ASCII needs no tables to be searched for the word
(`mentionsIgnore_of_ascii`).
-/

namespace FieldRules

namespace Text

theorem isAsciiLetter_iff {c : Char} : isAsciiLetter c = true ↔
    (97 ≤ c.toNat ∧ c.toNat ≤ 122) ∨ (65 ≤ c.toNat ∧ c.toNat ≤ 90) := by
  simp [isAsciiLetter, Char.le_def, UInt32.le_iff_toNat_le]

theorem isAsciiDigit_iff {c : Char} : isAsciiDigit c = true ↔ 48 ≤ c.toNat ∧ c.toNat ≤ 57 := by
  simp [isAsciiDigit, Char.le_def, UInt32.le_iff_toNat_le]

/-! ## Signs and blanks -/

/-- The ranges of all characters of words. -/
def wordRanges : Unicode.Ranges :=
  Unicode.letter ++ Unicode.letterNumeral ++ Unicode.otherAlphabetic ++ Unicode.nonspacingMark ++ Unicode.spacingMark ++
    Unicode.enclosingMark ++ Unicode.decimalDigit ++ Unicode.connector ++ [(0x200C, 0x200D)]

theorem isWord_eq_has (c : Char) : Unicode.isWord c = wordRanges.has c := by
  have hjoiner : Unicode.isJoiner c = Unicode.Ranges.has [(0x200C, 0x200D)] c := by
    rw [Bool.eq_iff_iff]
    simp only [Unicode.isJoiner, Unicode.Ranges.has, List.any_cons, List.any_nil, Bool.or_false, Bool.or_eq_true,
      beq_iff_eq, Bool.and_eq_true, decide_eq_true_eq]
    omega
  simp only [Unicode.isWord, Unicode.isAlphabetic, Unicode.isMark, wordRanges, hjoiner]
  simp only [Unicode.Ranges.has, List.any_append, Bool.or_assoc]

/-- Ranges without a character of a word: the signs of ASCII, and the blanks. -/
def wordGaps : Unicode.Ranges := [(0x00, 0x2F), (0x3A, 0x40), (0x5B, 0x5E), (0x60, 0x60), (0x7B, 0xA9),
  (0x1680, 0x1680), (0x2000, 0x200A), (0x2028, 0x2029), (0x202F, 0x202F), (0x205F, 0x205F), (0x3000, 0x3000)]

/-- What lies in ranges apart from those of a table is not in the table. -/
theorem has_eq_false_of_apart {table gaps : Unicode.Ranges}
    (hapart : (table.all fun r => gaps.all fun gap => Nat.blt gap.2 r.1 || Nat.blt r.2 gap.1) = true) {c : Char}
    (h : gaps.has c = true) : table.has c = false := by
  obtain ⟨gap, hgap, hc⟩ := List.any_eq_true.1 h
  rw [Unicode.Ranges.has, List.any_eq_false]
  intro r hr
  have hr := List.all_eq_true.1 (List.all_eq_true.1 hapart r hr) gap hgap
  simp only [Bool.or_eq_true, Nat.blt_eq, Bool.and_eq_true, decide_eq_true_eq] at hr hc ⊢
  omega

theorem not_isWord_of_wordGaps {c : Char} (h : wordGaps.has c = true) : Unicode.isWord c = false := by
  rw [isWord_eq_has]
  exact has_eq_false_of_apart (by decide +kernel) h

theorem wordGaps_of_isBlank {c : Char} (h : isBlank c = true) : wordGaps.has c = true := by
  simp only [isBlank, Bool.or_eq_true, Bool.and_eq_true, decide_eq_true_eq, beq_iff_eq] at h
  simp only [wordGaps, Unicode.Ranges.has, List.any_cons, List.any_nil, Bool.or_false, Bool.or_eq_true, Bool.and_eq_true,
    decide_eq_true_eq]
  omega

theorem not_isWord_of_isBlank {c : Char} (h : isBlank c = true) : Unicode.isWord c = false :=
  not_isWord_of_wordGaps (wordGaps_of_isBlank h)

/-! ## ASCII -/

theorem isWord_of_isAsciiLetter {c : Char} (h : isAsciiLetter c = true) : Unicode.isWord c = true := by
  have hletter : Unicode.letter.has c = true := by
    -- The first two ranges of the table hold the letters of both cases.
    rcases isAsciiLetter_iff.1 h with ⟨hfirst, hlast⟩ | ⟨hfirst, hlast⟩
    · refine List.any_eq_true.2 ⟨(0x61, 0x7A), .tail _ (.head _), ?_⟩
      simpa using And.intro hfirst hlast
    · refine List.any_eq_true.2 ⟨(0x41, 0x5A), .head _, ?_⟩
      simpa using And.intro hfirst hlast
  simp [Unicode.isWord, Unicode.isAlphabetic, hletter]

theorem decimalDigit_of_isAsciiDigit {c : Char} (h : isAsciiDigit c = true) : Unicode.decimalDigit.has c = true := by
  -- The first range of the table holds the digits.
  refine List.any_eq_true.2 ⟨(0x30, 0x39), .head _, ?_⟩
  simpa using isAsciiDigit_iff.1 h

theorem isWord_of_isAsciiDigit {c : Char} (h : isAsciiDigit c = true) : Unicode.isWord c = true := by
  simp [Unicode.isWord, decimalDigit_of_isAsciiDigit h]

theorem isWord_underscore : Unicode.isWord '_' = true := by
  have hconnector : Unicode.connector.has '_' = true := by decide
  simp [Unicode.isWord, hconnector]

/-- The characters of words in ASCII. -/
def isAsciiWord (c : Char) : Bool := isAsciiLetter c || isAsciiDigit c || c == '_'

theorem isAsciiWord_iff {c : Char} :
    isAsciiWord c = true ↔ (isAsciiLetter c = true ∨ isAsciiDigit c = true) ∨ c = '_' := by
  simp [isAsciiWord]

theorem isWord_of_ascii {c : Char} (h : c.toNat < 128) : Unicode.isWord c = isAsciiWord c := by
  by_cases hc : isAsciiWord c = true
  · rw [hc]
    rcases isAsciiWord_iff.1 hc with (hletter | hdigit) | rfl
    · exact isWord_of_isAsciiLetter hletter
    · exact isWord_of_isAsciiDigit hdigit
    · exact isWord_underscore
  · rw [Bool.eq_false_iff.2 hc]
    apply not_isWord_of_wordGaps
    have hscore : c = '_' ↔ c.toNat = 95 := Char.toNat_inj.symm
    rw [isAsciiWord_iff, isAsciiLetter_iff, isAsciiDigit_iff, hscore] at hc
    simp only [wordGaps, Unicode.Ranges.has, List.any_cons, List.any_nil, Bool.or_false, Bool.or_eq_true,
      Bool.and_eq_true, decide_eq_true_eq]
    omega

theorem piecesBy_congr {p q : Char → Bool} {cs : List Char} (h : ∀ c ∈ cs, p c = q c) : piecesBy p cs = piecesBy q cs := by
  induction cs with
  | nil => rfl
  | cons c cs ih =>
    obtain ⟨hc, hcs⟩ := List.forall_mem_cons.1 h
    simp [piecesBy, hc, ih hcs]

end Text

/-- A text in ASCII is searched without the tables for the word that turns a rule off. -/
theorem mentionsIgnore_of_ascii {s : String} (h : s.toList.all (fun c => c.toNat < 128) = true) : mentionsIgnore s =
    (Text.piecesBy (fun c => !Text.isAsciiWord c) s.toList).any fun word =>
      ["ignore", "ig"].contains (String.ofList (word.map Char.toLower)) := by
  have hwords : ∀ c ∈ s.toList, (!Unicode.isWord c) = !Text.isAsciiWord c := fun c hc => by
    rw [Text.isWord_of_ascii (by simpa using List.all_eq_true.1 h c hc)]
  rw [mentionsIgnore, Text.piecesBy_congr hwords]

end FieldRules
