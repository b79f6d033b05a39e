import FieldRules.Proofs.Nearest
import Mathlib.Algebra.Order.Field.Power
import Mathlib.Algebra.Order.Field.Rat
import Mathlib.Data.Nat.Cast.Order.Field
import Mathlib.Tactic.FieldSimp
import Mathlib.Tactic.Linarith
import Mathlib.Tactic.NormNum
import Mathlib.Tactic.Positivity
/-!
# Where the format ends

Every operation gives the number nearest to the exact result. A result is infinite from half a step behind the greatest
number of the format on (`overflow`), and else the error is at most 2^-53 of the result or half of the smallest number
(`rounds_ofRatio`). So of a product (`rounds_mul`) and a quotient (`rounds_div`) the size is known up to this error, and
when they are infinite.
-/

namespace FieldRules.Binary64

/-! ## Sizes -/

/-- The size of a finite number. -/
def size : Binary64 → ℚ
  | .finite _ m q => m * 2 ^ q
  | _ => 0

theorem size_nonneg (x : Binary64) : 0 ≤ x.size := by
  cases x with
  | finite s m q => exact mul_nonneg (Nat.cast_nonneg m) (zpow_nonneg (by norm_num) q)
  | _ => exact le_refl 0

/-- The greatest size of a number. -/
def greatest : ℚ := (2 * leadingBit - 1) * 2 ^ highest

/-- The least size that is too great: the middle between the greatest number and the power of two behind it. -/
def overflow : ℚ := (4 * leadingBit - 1) * 2 ^ (highest - 1)

theorem two_zpow_highest : (2 : ℚ) ^ highest = 2 * 2 ^ (highest - 1) := by
  rw [← zpow_one_add₀ (by norm_num)]
  rfl

theorem greatest_add_one_lt_overflow : greatest + 1 < overflow := by
  have hone : (1 : ℚ) < 2 ^ (highest - 1) := one_lt_zpow₀ (by norm_num) (by decide)
  rw [greatest, overflow, two_zpow_highest]
  linarith

theorem ratio_den_pos (m : Nat) (q : Int) : 0 < (ratio m q).2 := by
  unfold ratio
  split
  · exact Nat.one_pos
  · rw [Nat.one_shiftLeft]
    exact Nat.two_pow_pos _

theorem zpow_eq_of_nonneg {q : Int} (h : 0 ≤ q) : (2 : ℚ) ^ q = (2 ^ q.toNat : Nat) := by
  conv => lhs; rw [← Int.toNat_of_nonneg h]
  rw [zpow_natCast, Nat.cast_pow, Nat.cast_ofNat]

theorem zpow_eq_of_neg {q : Int} (h : ¬ 0 ≤ q) : (2 : ℚ) ^ q = ((2 ^ (-q).toNat : Nat) : ℚ)⁻¹ := by
  rw [← zpow_eq_of_nonneg (by omega), zpow_neg, inv_inv]

theorem ratio_eq (m : Nat) (q : Int) : ((ratio m q).1 : ℚ) / (ratio m q).2 = m * 2 ^ q := by
  unfold ratio
  split
  · rename_i h
    rw [zpow_eq_of_nonneg h, Nat.shiftLeft_eq, Nat.cast_mul, Nat.cast_one, div_one]
  · rename_i h
    rw [zpow_eq_of_neg h, Nat.one_shiftLeft, div_eq_mul_inv]

/-! ## The exponent of a ratio -/

theorem log2_bounds {n : Nat} (hn : n ≠ 0) : (2 : ℚ) ^ (n.log2 : Int) ≤ n ∧ (n : ℚ) < 2 ^ (n.log2 + 1 : Int) := by
  have hlow : 2 ^ n.log2 ≤ n := Nat.log2_self_le hn
  have hhigh : n < 2 ^ (n.log2 + 1) := Nat.lt_log2_self
  constructor
  · exact_mod_cast hlow
  · exact_mod_cast hhigh

/-- A ratio is at least a power of two. -/
theorem shifted_le_iff {num den : Nat} (hd : 0 < den) (e : Int) :
    (if e ≥ 0 then den <<< e.toNat ≤ num else den ≤ num <<< (-e).toNat) ↔ (2 : ℚ) ^ e ≤ num / den := by
  have hden : (0 : ℚ) < den := Nat.cast_pos.2 hd
  rw [le_div_iff₀ hden]
  split
  · rename_i h
    rw [zpow_eq_of_nonneg h, Nat.shiftLeft_eq, mul_comm, ← Nat.cast_mul, Nat.cast_le]
  · rename_i h
    have hpow : (0 : ℚ) < (2 ^ (-e).toNat : Nat) := Nat.cast_pos.2 (Nat.two_pow_pos _)
    rw [zpow_eq_of_neg h, Nat.shiftLeft_eq, inv_mul_le_iff₀ hpow, mul_comm, ← Nat.cast_mul, Nat.cast_le]

theorem log2Ratio_spec {num den : Nat} (hn : num ≠ 0) (hd : den ≠ 0) :
    (2 : ℚ) ^ log2Ratio num den ≤ num / den ∧ (num : ℚ) / den < 2 ^ (log2Ratio num den + 1) := by
  obtain ⟨hnumLow, hnumHigh⟩ := log2_bounds hn
  obtain ⟨hdenLow, hdenHigh⟩ := log2_bounds hd
  have hden : (0 : ℚ) < den := Nat.cast_pos.2 (Nat.pos_of_ne_zero hd)
  have hiff := @shifted_le_iff num den (Nat.pos_of_ne_zero hd) (num.log2 - den.log2)
  have hlow : (2 : ℚ) ^ ((num.log2 : Int) - den.log2 - 1) ≤ num / den := by
    rw [le_div_iff₀ hden]
    calc (2 : ℚ) ^ ((num.log2 : Int) - den.log2 - 1) * den
        ≤ 2 ^ ((num.log2 : Int) - den.log2 - 1) * 2 ^ (den.log2 + 1 : Int) :=
          mul_le_mul_of_nonneg_left hdenHigh.le (zpow_nonneg (by norm_num) _)
      _ = 2 ^ (num.log2 : Int) := by
          rw [← zpow_add₀ (by norm_num)]
          congr 1
          omega
      _ ≤ num := hnumLow
  have hhigh : (num : ℚ) / den < 2 ^ ((num.log2 : Int) - den.log2 + 1) := by
    rw [div_lt_iff₀ hden]
    calc (num : ℚ) < 2 ^ (num.log2 + 1 : Int) := hnumHigh
      _ = 2 ^ ((num.log2 : Int) - den.log2 + 1) * 2 ^ (den.log2 : Int) := by
          rw [← zpow_add₀ (by norm_num)]
          congr 1
          omega
      _ ≤ 2 ^ ((num.log2 : Int) - den.log2 + 1) * den :=
          mul_le_mul_of_nonneg_left hdenLow (zpow_nonneg (by norm_num) _)
  by_cases h : (2 : ℚ) ^ ((num.log2 : Int) - den.log2) ≤ num / den
  · have hlog : log2Ratio num den = num.log2 - den.log2 := if_pos (hiff.2 h)
    rw [hlog]
    exact ⟨h, hhigh⟩
  · have hlog : log2Ratio num den = num.log2 - den.log2 - 1 := if_neg fun hholds => h (hiff.1 hholds)
    rw [hlog, sub_add_cancel]
    exact ⟨hlow, not_le.1 h⟩

/-! ## Rounding a mantissa -/

theorem roundEven_error {d : Nat} (hd : 0 < d) (a : Nat) : |(roundEven a d : ℚ) - a / d| ≤ 1 / 2 := by
  have hden : (0 : ℚ) < d := Nat.cast_pos.2 hd
  obtain ⟨hup, hdown⟩ := roundEven_near hd a
  have hup : 2 * (a : ℚ) ≤ 2 * (roundEven a d * d) + d := by exact_mod_cast hup
  have hdown : 2 * (roundEven a d * d : ℚ) ≤ 2 * a + d := by exact_mod_cast hdown
  have ha : (a : ℚ) / d * d = a := div_mul_cancel₀ _ hden.ne'
  rw [abs_le]
  constructor <;> nlinarith

/-- The middle above an odd number is rounded away from it. -/
theorem roundEven_le_iff {a d k : Nat} (hd : 0 < d) (hk : k % 2 = 1) :
    roundEven a d ≤ k ↔ 2 * a < (2 * k + 1) * d := by
  have hdiv := Nat.div_add_mod' a d
  have hrem := Nat.mod_lt a hd
  have hk' : (2 * k + 1) * d = 2 * (k * d) + d := by ring
  rw [hk']
  rcases Nat.lt_trichotomy (a / d) k with hlt | heq | hgt
  · have hstep : a / d * d + d ≤ k * d := by
      rw [← Nat.succ_mul]
      exact Nat.mul_le_mul_right d hlt
    have hround : roundEven a d ≤ a / d + 1 := by
      simp only [roundEven]
      split <;> omega
    omega
  · simp only [roundEven, heq]
    rw [heq] at hdiv
    split <;> omega
  · have hstep : k * d + d ≤ a / d * d := by
      rw [← Nat.succ_mul]
      exact Nat.mul_le_mul_right d hgt
    have hround : a / d ≤ roundEven a d := by
      simp only [roundEven]
      split <;> omega
    omega

/-- A number is a ratio in units of a power of two, rounded. Unless the unit is the smallest, the ratio needs all
bits. -/
theorem exists_mantissa (s : Bool) {num den : Nat} (hn : num ≠ 0) (hd : 0 < den) :
    ∃ (a d : Nat) (q : Int), 0 < d ∧ (num : ℚ) / den = a / d * 2 ^ q ∧ (a : ℚ) / d < 2 * leadingBit ∧
      (q = lowest ∨ (leadingBit : ℚ) ≤ a / d) ∧ ofRatio s num den = pack s (roundEven a d) q := by
  obtain ⟨hlow, hhigh⟩ := log2Ratio_spec hn hd.ne'
  have hpack : ofRatio s num den = pack s
      (if max (log2Ratio num den - 52) lowest ≥ 0 then
        roundEven num (den <<< (max (log2Ratio num den - 52) lowest).toNat)
      else roundEven (num <<< (-max (log2Ratio num den - 52) lowest).toNat) den)
      (max (log2Ratio num den - 52) lowest) := if_neg hn
  generalize hq : max (log2Ratio num den - 52) lowest = q at hpack
  have hunit : (0 : ℚ) < 2 ^ q := zpow_pos (by norm_num) q
  have hlead : (leadingBit : ℚ) = 2 ^ (52 : Int) := by norm_num [leadingBit]
  obtain ⟨a, d, hd', hvalue, hround⟩ : ∃ a d : Nat, 0 < d ∧ (a : ℚ) / d = num / den / 2 ^ q ∧
      (if q ≥ 0 then roundEven num (den <<< q.toNat) else roundEven (num <<< (-q).toNat) den) = roundEven a d := by
    split
    · rename_i h
      refine ⟨num, den <<< q.toNat, ?_, ?_, rfl⟩
      · rw [Nat.shiftLeft_eq]
        exact Nat.mul_pos hd (Nat.two_pow_pos _)
      · rw [zpow_eq_of_nonneg h, Nat.shiftLeft_eq, Nat.cast_mul, div_div]
    · rename_i h
      refine ⟨num <<< (-q).toNat, den, hd, ?_, rfl⟩
      rw [zpow_eq_of_neg h, Nat.shiftLeft_eq, Nat.cast_mul, div_inv_eq_mul, div_mul_eq_mul_div]
  refine ⟨a, d, q, hd', ?_, ?_, ?_, by rw [hpack, hround]⟩
  · rw [hvalue, div_mul_cancel₀ _ hunit.ne']
  · rw [hvalue, div_lt_iff₀ hunit, hlead, ← zpow_one_add₀ (by norm_num), ← zpow_add₀ (by norm_num)]
    exact hhigh.trans_le (zpow_le_zpow_right₀ (by norm_num) (by omega))
  · rcases eq_or_ne q lowest with hlowest | hlowest
    · exact .inl hlowest
    · right
      rw [hvalue, le_div_iff₀ hunit, hlead, ← zpow_add₀ (by norm_num)]
      exact (zpow_le_zpow_right₀ (by norm_num) (by omega)).trans hlow

/-- A packed mantissa is infinite if its exponent is too high, also if that is so by the carry only. -/
theorem pack_spec (s : Bool) {m : Nat} (hm : m ≤ 2 * leadingBit) (q : Int) :
    ((highest < q ∨ q = highest ∧ m = 2 * leadingBit) ∧ pack s m q = .infinite s) ∨
      (¬ (highest < q ∨ q = highest ∧ m = 2 * leadingBit) ∧
        ∃ n r, pack s m q = .finite s n r ∧ n < 2 * leadingBit ∧ r ≤ highest ∧ (n : ℚ) * 2 ^ r = m * 2 ^ q) := by
  by_cases hcarry : m = 2 * leadingBit
  · have hvalue : (leadingBit : ℚ) * 2 ^ (q + 1) = m * 2 ^ q := by
      rw [hcarry, zpow_add_one₀ (by norm_num)]
      push_cast
      ring
    simp only [pack, hcarry, if_true, and_true]
    by_cases hq : q + 1 > highest
    · rw [if_pos hq]
      exact .inl ⟨by omega, rfl⟩
    · rw [if_neg hq]
      exact .inr ⟨by omega, _, _, rfl, by decide, by omega, by rw [hvalue, hcarry]⟩
  · simp only [pack, hcarry, if_false, and_false, or_false]
    by_cases hq : q > highest
    · rw [if_pos hq]
      exact .inl ⟨hq, rfl⟩
    · rw [if_neg hq]
      exact .inr ⟨hq, _, _, rfl, by omega, by omega, rfl⟩

/-! ## Rounding a size -/

/-- The relative error of rounding a size that is not too small. -/
def roundoff : ℚ := 1 / (2 * leadingBit)

theorem roundoff_pos : 0 < roundoff := by norm_num [roundoff, leadingBit]

theorem roundoff_lt_one : roundoff < 1 := by norm_num [roundoff, leadingBit]

/-- What a size is rounded to: infinite from `overflow` on, and else a number of the format that is off by at most
`roundoff` of the size, or by half of the smallest number. -/
inductive Rounds (negative : Bool) (v : ℚ) : Binary64 → Prop
  | finite {m : Nat} {q : Int} (hrange : v < overflow) (hgreatest : m * 2 ^ q ≤ greatest)
      (herror : |m * 2 ^ q - v| ≤ max (v * roundoff) (2 ^ (lowest - 1))) : Rounds negative v (.finite negative m q)
  | infinite (hrange : overflow ≤ v) : Rounds negative v (.infinite negative)

theorem zero_le_greatest : 0 ≤ greatest :=
  mul_nonneg (by norm_num [leadingBit]) (zpow_nonneg (by norm_num) _)

theorem roundEven_le_of_lt {a d k : Nat} (hd : 0 < d) (h : (a : ℚ) / d < k) : roundEven a d ≤ k := by
  have hle : a ≤ k * d := by
    rw [div_lt_iff₀ (Nat.cast_pos.2 hd)] at h
    exact_mod_cast h.le
  calc roundEven a d ≤ roundEven (k * d) d := roundEven_mono d hle
    _ = k := roundEven_mul hd k

/-- Too great is what is rounded to a mantissa of 54 bits at the highest exponent, and what has a higher one. -/
theorem overflow_le_iff {a d : Nat} {q : Int} (hd : 0 < d) (hhigh : (a : ℚ) / d < 2 * leadingBit)
    (hlow : q = lowest ∨ (leadingBit : ℚ) ≤ a / d) :
    overflow ≤ a / d * 2 ^ q ↔ highest < q ∨ q = highest ∧ roundEven a d = 2 * leadingBit := by
  have hunit : (0 : ℚ) < 2 ^ (highest - 1) := zpow_pos (by norm_num) _
  have hvalue : (0 : ℚ) ≤ a / d := div_nonneg (Nat.cast_nonneg a) (Nat.cast_nonneg d)
  have hlead : (1 : ℚ) ≤ leadingBit := by norm_num [leadingBit]
  rcases Int.lt_trichotomy q highest with hlt | rfl | hgt
  · have hpow : (2 : ℚ) ^ q ≤ 2 ^ (highest - 1) := zpow_le_zpow_right₀ (by norm_num) (by omega)
    refine iff_of_false (not_le.2 ?_) (by omega)
    calc (a : ℚ) / d * 2 ^ q ≤ a / d * 2 ^ (highest - 1) := mul_le_mul_of_nonneg_left hpow hvalue
      _ < 2 * leadingBit * 2 ^ (highest - 1) := mul_lt_mul_of_pos_right hhigh hunit
      _ ≤ overflow := mul_le_mul_of_nonneg_right (by linarith) hunit.le
  · -- At the highest exponent the greatest mantissa is odd, so that the middle behind it is too great.
    have hodd := roundEven_le_iff (a := a) (k := 2 * leadingBit - 1) hd rfl
    have hmax : roundEven a d ≤ 2 * leadingBit := roundEven_le_of_lt hd (by exact_mod_cast hhigh)
    have hmiddle : overflow ≤ a / d * 2 ^ highest ↔ (2 * (2 * leadingBit - 1) + 1) * d ≤ 2 * a := by
      have hcast : ((2 * (2 * leadingBit - 1) + 1 : Nat) : ℚ) = 4 * leadingBit - 1 := by norm_num [leadingBit]
      rw [overflow, two_zpow_highest, ← mul_assoc, mul_le_mul_iff_left₀ hunit, ← hcast, div_mul_eq_mul_div,
        le_div_iff₀ (Nat.cast_pos.2 hd), mul_comm (a : ℚ)]
      exact_mod_cast Iff.rfl
    have hlast : roundEven a d = 2 * leadingBit ↔ ¬ roundEven a d ≤ 2 * leadingBit - 1 := by
      have hpos : 0 < leadingBit := by decide
      omega
    rw [hmiddle, hlast, hodd, Nat.not_lt]
    simp
  · have hpow : (2 : ℚ) ^ (highest + 1) ≤ 2 ^ q := zpow_le_zpow_right₀ (by norm_num) (by omega)
    have hbits : (leadingBit : ℚ) ≤ a / d := hlow.resolve_left (by
      rintro rfl
      revert hgt
      decide)
    refine iff_of_true ?_ (.inl hgt)
    calc overflow ≤ 4 * leadingBit * 2 ^ (highest - 1) := mul_le_mul_of_nonneg_right (by linarith) hunit.le
      _ = leadingBit * 2 ^ (highest + 1) := by
          rw [zpow_add_one₀ (by norm_num), two_zpow_highest]
          ring
      _ ≤ leadingBit * 2 ^ q := mul_le_mul_of_nonneg_left hpow (by linarith)
      _ ≤ a / d * 2 ^ q := mul_le_mul_of_nonneg_right hbits (zpow_nonneg (by norm_num) q)

theorem rounds_ofRatio (s : Bool) (num : Nat) {den : Nat} (hd : 0 < den) :
    Rounds s (num / den) (ofRatio s num den) := by
  rcases Nat.eq_zero_or_pos num with rfl | hn
  · have hpos : (0 : ℚ) ≤ 2 ^ (lowest - 1) := zpow_nonneg (by norm_num) _
    have hover : (0 : ℚ) < overflow := by linarith [greatest_add_one_lt_overflow, zero_le_greatest]
    simp only [ofRatio, if_true, zero, Nat.cast_zero, zero_div]
    exact .finite hover (by simpa using zero_le_greatest) (by simp [hpos])
  obtain ⟨a, d, q, hd', hvalue, hhigh, hlow, hround⟩ := exists_mantissa s hn.ne' hd
  have hover := overflow_le_iff hd' hhigh hlow
  rw [hvalue, hround]
  rcases pack_spec s (roundEven_le_of_lt hd' (by exact_mod_cast hhigh)) q with
    ⟨hbeyond, hpack⟩ | ⟨hwithin, m, r, hpack, hm, hr, hsize⟩
  · rw [hpack]
    exact .infinite (hover.2 hbeyond)
  · rw [hpack]
    have hunit : (0 : ℚ) < 2 ^ q := zpow_pos (by norm_num) q
    refine .finite (not_le.1 fun hle => hwithin (hover.1 hle)) ?_ ?_
    · have hm : (m : ℚ) ≤ 2 * leadingBit - 1 := by
        have hle : (m : ℚ) + 1 ≤ (2 * leadingBit : Nat) := by exact_mod_cast hm
        push_cast at hle
        linarith
      have hpow : (2 : ℚ) ^ r ≤ 2 ^ highest := zpow_le_zpow_right₀ (by norm_num) hr
      exact mul_le_mul hm hpow (zpow_nonneg (by norm_num) r) (by norm_num [leadingBit])
    · have herror : |(m : ℚ) * 2 ^ r - a / d * 2 ^ q| ≤ 1 / 2 * 2 ^ q := by
        rw [hsize, ← sub_mul, abs_mul, abs_of_pos hunit]
        exact mul_le_mul_of_nonneg_right (roundEven_error hd' a) hunit.le
      rcases hlow with rfl | hbits
      · have hhalf : (1 / 2 : ℚ) * 2 ^ lowest = 2 ^ (lowest - 1) := by
          rw [zpow_sub_one₀ (by norm_num)]
          ring
        exact herror.trans (hhalf.le.trans (le_max_right _ _))
      · refine herror.trans (le_trans ?_ (le_max_left _ _))
        have hlead : (0 : ℚ) < 2 * leadingBit := by norm_num [leadingBit]
        rw [roundoff, mul_one_div, le_div_iff₀ hlead]
        nlinarith

namespace Rounds

variable {x : Binary64} {s : Bool} {v : ℚ}

theorem isFinite_iff (h : Rounds s v x) : x.isFinite = true ↔ v < overflow := by
  cases h with
  | finite hrange => exact iff_of_true rfl hrange
  | infinite hrange => exact iff_of_false Bool.false_ne_true hrange.not_gt

theorem size_le_greatest (h : Rounds s v x) : x.size ≤ greatest := by
  cases h with
  | finite _ hgreatest => exact hgreatest
  | infinite => exact zero_le_greatest

end Rounds

/-! ## Operations -/

variable {x y : Binary64}

theorem exists_of_isFinite (h : x.isFinite = true) : ∃ s m q, x = .finite s m q := by
  cases x with
  | finite s m q => exact ⟨s, m, q, rfl⟩
  | _ => cases h

theorem rounds_mul (hx : x.isFinite = true) (hy : y.isFinite = true) :
    Rounds (x.isNegative != y.isNegative) (x.size * y.size) (x.mul y) := by
  obtain ⟨s, m, q, rfl⟩ := exists_of_isFinite hx
  obtain ⟨t, n, r, rfl⟩ := exists_of_isFinite hy
  have h := rounds_ofRatio (s != t) ((ratio m q).1 * (ratio n r).1)
    (Nat.mul_pos (ratio_den_pos m q) (ratio_den_pos n r))
  rwa [Nat.cast_mul, Nat.cast_mul, mul_div_mul_comm, ratio_eq, ratio_eq] at h

theorem rounds_div (hx : x.isFinite = true) (hy : y.isFinite = true) (hzero : y.size ≠ 0) :
    Rounds (x.isNegative != y.isNegative) (x.size / y.size) (x.div y) := by
  obtain ⟨s, m, q, rfl⟩ := exists_of_isFinite hx
  obtain ⟨t, n, r, rfl⟩ := exists_of_isFinite hy
  have hn : n ≠ 0 := by
    rintro rfl
    exact hzero (by rw [size, Nat.cast_zero, zero_mul])
  have hnum : 0 < (ratio n r).1 := by
    refine Nat.pos_of_ne_zero fun h => hzero ?_
    rw [size, ← ratio_eq, h, Nat.cast_zero, zero_div]
  have h := rounds_ofRatio (s != t) ((ratio m q).1 * (ratio n r).2) (Nat.mul_pos (ratio_den_pos m q) hnum)
  rw [Nat.cast_mul, Nat.cast_mul, mul_div_mul_comm, ratio_eq, ← inv_div, ratio_eq, ← div_eq_mul_inv] at h
  simpa only [div, hn, if_false, size, isNegative] using h

/-- A whole number next to a number of the format is finite. -/
theorem isFinite_roundHalfAway (hx : x.isFinite = true) (hsize : x.size ≤ greatest) :
    x.roundHalfAway.isFinite = true ∧ x.roundHalfAway.size ≤ greatest := by
  obtain ⟨s, m, q, rfl⟩ := exists_of_isFinite hx
  have h := rounds_ofRatio s (roundUp (ratio m q).1 (ratio m q).2) Nat.one_pos
  refine ⟨h.isFinite_iff.2 ?_, h.size_le_greatest⟩
  have hden : (0 : ℚ) < (ratio m q).2 := Nat.cast_pos.2 (ratio_den_pos m q)
  calc ((roundUp (ratio m q).1 (ratio m q).2 : Nat) : ℚ) / (1 : Nat)
      ≤ ((2 * (ratio m q).1 + (ratio m q).2 : Nat) : ℚ) / (2 * (ratio m q).2 : Nat) := by
        rw [Nat.cast_one, div_one]
        exact Nat.cast_div_le
    _ = (ratio m q).1 / (ratio m q).2 + 1 / 2 := by
        push_cast
        field_simp
    _ ≤ greatest + 1 := by
        rw [ratio_eq]
        exact add_le_add hsize (by norm_num)
    _ < overflow := greatest_add_one_lt_overflow

end FieldRules.Binary64
