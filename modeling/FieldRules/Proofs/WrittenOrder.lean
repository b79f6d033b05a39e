import FieldRules.Proofs.Comparing
import FieldRules.Proofs.Dates
import Mathlib.Data.String.Basic
/-!
# Orders that writing keeps

Texts are in order as their characters are, from the first on. So numbers of the same width are in the order of their
digits (`Text.padded_lt_iff`), and parts of the same width decide one after another (`Text.append_lt_append_iff`). As
binary64 numbers, integers of 52 bits are compared as they are (`Binary64.ofInt_le_iff`).
-/

namespace FieldRules

open Text

namespace Text

/-- Where the first parts are equally long, they decide before the second ones. -/
theorem append_lt_append_iff {xs ys ds es : List Char} (h : xs.length = ys.length) :
    xs ++ ds < ys ++ es ↔ xs < ys ∨ xs = ys ∧ ds < es := by
  induction xs generalizing ys with
  | nil =>
    rw [List.length_eq_zero_iff.1 h.symm]
    simp
  | cons x xs ih =>
    match ys with
    | y :: ys =>
      have hlength : xs.length = ys.length := Nat.succ.inj h
      rw [List.cons_append, List.cons_append, List.cons_lt_cons_iff, List.cons_lt_cons_iff, ih hlength, List.cons.injEq]
      tauto

/-- So many digits are in the order of their values. -/
theorem digits_lt_iff {ds es : List Char} (hds : ∀ c ∈ ds, isAsciiDigit c = true)
    (hes : ∀ c ∈ es, isAsciiDigit c = true) (hlength : ds.length = es.length) :
    ds < es ↔ digitsValue 0 ds < digitsValue 0 es := by
  induction ds generalizing es with
  | nil =>
    rw [List.length_eq_zero_iff.1 hlength.symm]
    simp
  | cons c ds ih =>
    match es with
    | d :: es =>
      obtain ⟨hc, hds⟩ := List.forall_mem_cons.1 hds
      obtain ⟨hd, hes⟩ := List.forall_mem_cons.1 hes
      have hlength : ds.length = es.length := Nat.succ.inj hlength
      have hrest := digitsValue_lt hds
      have hrest' := digitsValue_lt hes
      have hfirst := (isAsciiDigit_iff.1 hc).1
      have hfirst' := (isAsciiDigit_iff.1 hd).1
      have hlt : c < d ↔ c.toNat - 48 < d.toNat - 48 := by
        rw [Char.lt_def, UInt32.lt_iff_toNat_lt]
        show c.toNat < d.toNat ↔ _
        omega
      have heq : c = d ↔ c.toNat - 48 = d.toNat - 48 := by
        rw [← Char.toNat_inj]
        omega
      rw [List.cons_lt_cons_iff, ih hds hes hlength, digitsValue_cons, digitsValue_cons, hlt, heq, hlength]
      rw [hlength] at hrest
      -- A greater first digit outweighs all digits behind it.
      have hstep {m n : Nat} (h : m < n) : 10 ^ es.length * m + 10 ^ es.length ≤ 10 ^ es.length * n :=
        Nat.mul_le_mul_left (10 ^ es.length) h
      rcases Nat.lt_trichotomy (c.toNat - 48) (d.toNat - 48) with hless | hsame | hmore
      · have := hstep hless
        omega
      · rw [hsame]
        omega
      · have := hstep hmore
        omega

theorem padded_inj {width m n : Nat} : padded width m = padded width n ↔ m = n := by
  constructor
  · intro h
    rw [← digitsValue_padded width m, h, digitsValue_padded]
  · exact congrArg _

theorem padded_lt_iff {width m n : Nat} (h : (padded width m).length = (padded width n).length) :
    padded width m < padded width n ↔ m < n := by
  rw [digits_lt_iff (fun _ => isAsciiDigit_of_mem_padded) (fun _ => isAsciiDigit_of_mem_padded) h, digitsValue_padded,
    digitsValue_padded]

end Text

namespace Binary64

theorem signed_natAbs (n : Int) : signed (n < 0) n.natAbs = n := by
  unfold signed
  by_cases hn : n < 0
  · simp only [hn, decide_true, if_true]
    omega
  · simp only [hn, decide_false, Bool.false_eq_true, if_false]
    omega

/-- An integer of 52 bits is a number of the format. -/
theorem isWhole_ofInt {n : Int} (h : n.natAbs < 2 ^ 52) : IsWhole (ofInt n) (n < 0) n.natAbs := by
  have hnearest : nearest n.natAbs = n.natAbs := by
    by_cases hzero : n.natAbs = 0
    · rw [hzero]
      decide
    · exact nearest_of_log2_lt ((Nat.log2_lt hzero).2 h)
  have hrange : InRange64 n := by
    have hbound : bound63 = 2 ^ 63 := by decide
    unfold InRange64
    omega
  have hwhole := isWhole_of_inRange64 hrange (ofRatio_one (n < 0) n.natAbs)
  rwa [hnearest] at hwhole

theorem ofInt_le_iff {m n : Int} (hm : m.natAbs < 2 ^ 52) (hn : n.natAbs < 2 ^ 52) :
    (ofInt m).le (ofInt n) = true ↔ m ≤ n := by
  rw [(isWhole_ofInt hm).le_iff (isWhole_ofInt hn), signed_natAbs, signed_natAbs]

end Binary64

end FieldRules
