import FieldRules.Binary64.Basic
import Mathlib.Tactic.Ring
/-!
# Whole numbers in 53 bits

Below 2^53 every whole number is one of the format; above, the format has only those that end in enough zeros. `nearest`
is the one that a whole number is rounded to: rounding keeps the order (`nearest_mono`), leaves the numbers of the
format as they are (`nearest_eq_self_iff`), and no number of the format is nearer (`nearest_closest`). What `ofRatio`
makes of a whole number is this number or, from 2^1024 on, infinite (`ofRatio_one`).
-/

namespace FieldRules.Binary64

/-! ## Rounding to the even one -/

theorem roundEven_mul {d : Nat} (hd : 0 < d) (k : Nat) : roundEven (k * d) d = k := by
  have hdiv : k * d / d = k := Nat.mul_div_cancel k hd
  have hmod : k * d % d = 0 := Nat.mul_mod_left k d
  simp only [roundEven, hdiv, hmod]
  rw [if_pos (.inl (by omega))]

theorem roundEven_mono {a b : Nat} (d : Nat) (h : a ≤ b) : roundEven a d ≤ roundEven b d := by
  have hquot : a / d ≤ b / d := Nat.div_le_div_right h
  rcases Nat.eq_or_lt_of_le hquot with heq | hlt
  · have hrem : a % d ≤ b % d := by
      have ha := Nat.div_add_mod a d
      have hb := Nat.div_add_mod b d
      rw [heq] at ha
      omega
    simp only [roundEven]
    split <;> split <;> omega
  · simp only [roundEven]
    split <;> split <;> omega

/-- Rounding stays within half a unit. -/
theorem roundEven_near {d : Nat} (hd : 0 < d) (a : Nat) :
    2 * a ≤ 2 * (roundEven a d * d) + d ∧ 2 * (roundEven a d * d) ≤ 2 * a + d := by
  have hdiv := Nat.div_add_mod' a d
  have hrem := Nat.mod_lt a hd
  have hnext : (a / d + 1) * d = a / d * d + d := Nat.succ_mul _ _
  simp only [roundEven]
  split
  · omega
  · rw [hnext]
    omega

/-! ## The whole numbers of the format -/

/-- Do 53 bits, and zeros behind them, make the number? -/
def FitsMantissa (n : Nat) : Prop := ∃ m k, m < 2 * leadingBit ∧ n = m * 2 ^ k

/-- The distance of neighbouring whole numbers of the format from the power of two below `n` on. -/
def gap (n : Nat) : Nat := 2 ^ (n.log2 - 52)

/-- The whole number of the format nearest to `n`, the even one of two. -/
def nearest (n : Nat) : Nat := roundEven n (gap n) * gap n

theorem gap_pos (n : Nat) : 0 < gap n := Nat.two_pow_pos _

theorem gap_of_log2_lt {n : Nat} (h : n.log2 < 52) : gap n = 1 := by
  have hzero : n.log2 - 52 = 0 := by omega
  rw [gap, hzero, Nat.pow_zero]

theorem leadingBit_mul_gap {n : Nat} (h : 52 ≤ n.log2) : leadingBit * gap n = 2 ^ n.log2 := by
  have hlead : leadingBit = 2 ^ 52 := by decide
  rw [hlead, gap, ← Nat.pow_add]
  congr 1
  omega

theorem gap_dvd_nearest (n : Nat) : gap n ∣ nearest n := Nat.dvd_mul_left _ _

theorem nearest_of_gap_dvd {n : Nat} (h : gap n ∣ n) : nearest n = n := by
  obtain ⟨k, hk⟩ := h
  have hround : roundEven n (gap n) = k := by
    calc roundEven n (gap n) = roundEven (k * gap n) (gap n) := by rw [Nat.mul_comm k, ← hk]
      _ = k := roundEven_mul (gap_pos n) k
  rw [nearest, hround, Nat.mul_comm, ← hk]

theorem nearest_of_log2_lt {n : Nat} (h : n.log2 < 52) : nearest n = n := by
  apply nearest_of_gap_dvd
  rw [gap_of_log2_lt h]
  exact Nat.one_dvd n

/-- The mantissa of a number that needs all bits. -/
theorem roundEven_gap_bounds {n : Nat} (h : 52 ≤ n.log2) :
    leadingBit ≤ roundEven n (gap n) ∧ roundEven n (gap n) ≤ 2 * leadingBit := by
  have hn : n ≠ 0 := by
    rintro rfl
    exact absurd h (by decide)
  have hlow : leadingBit * gap n ≤ n := by
    rw [leadingBit_mul_gap h]
    exact Nat.log2_self_le hn
  have hhigh : n ≤ 2 * leadingBit * gap n := by
    rw [Nat.mul_assoc, leadingBit_mul_gap h, ← Nat.pow_succ']
    exact Nat.lt_log2_self.le
  constructor
  · calc leadingBit = roundEven (leadingBit * gap n) (gap n) := (roundEven_mul (gap_pos n) _).symm
      _ ≤ roundEven n (gap n) := roundEven_mono _ hlow
  · calc roundEven n (gap n) ≤ roundEven (2 * leadingBit * gap n) (gap n) := roundEven_mono _ hhigh
      _ = 2 * leadingBit := roundEven_mul (gap_pos n) _

/-- Rounding does not leave the powers of two about a number. -/
theorem nearest_bounds {n : Nat} (hn : n ≠ 0) : 2 ^ n.log2 ≤ nearest n ∧ nearest n ≤ 2 ^ (n.log2 + 1) := by
  by_cases h : n.log2 < 52
  · rw [nearest_of_log2_lt h]
    exact ⟨Nat.log2_self_le hn, Nat.lt_log2_self.le⟩
  · have hlog : 52 ≤ n.log2 := Nat.le_of_not_lt h
    obtain ⟨hlow, hhigh⟩ := roundEven_gap_bounds hlog
    have hpow : 2 ^ (n.log2 + 1) = 2 * leadingBit * gap n := by
      rw [Nat.mul_assoc, leadingBit_mul_gap hlog, Nat.pow_succ']
    rw [← leadingBit_mul_gap hlog, hpow]
    exact ⟨Nat.mul_le_mul_right _ hlow, Nat.mul_le_mul_right _ hhigh⟩

theorem nearest_mono {a b : Nat} (h : a ≤ b) : nearest a ≤ nearest b := by
  rcases Nat.eq_zero_or_pos a with rfl | ha
  · exact Nat.zero_le _
  · have hb : b ≠ 0 := by omega
    have hlog : a.log2 ≤ b.log2 := (Nat.le_log2 hb).2 ((Nat.log2_self_le ha.ne').trans h)
    rcases Nat.eq_or_lt_of_le hlog with heq | hlt
    · have hgap : gap a = gap b := by rw [gap, gap, heq]
      rw [nearest, nearest, hgap]
      exact Nat.mul_le_mul_right _ (roundEven_mono _ h)
    · calc nearest a ≤ 2 ^ (a.log2 + 1) := (nearest_bounds ha.ne').2
        _ ≤ 2 ^ b.log2 := Nat.pow_le_pow_right (by decide) hlt
        _ ≤ nearest b := (nearest_bounds hb).1

theorem fitsMantissa_two_pow (k : Nat) : FitsMantissa (2 ^ k) := ⟨1, k, by decide, (Nat.one_mul _).symm⟩

theorem fitsMantissa_nearest (n : Nat) : FitsMantissa (nearest n) := by
  by_cases h : n.log2 < 52
  · rw [nearest_of_log2_lt h]
    refine ⟨n, 0, ?_, by simp⟩
    have hn : n < 2 ^ (n.log2 + 1) := Nat.lt_log2_self
    calc n < 2 ^ (n.log2 + 1) := hn
      _ ≤ 2 ^ 53 := Nat.pow_le_pow_right (by decide) (by omega)
  · obtain ⟨-, hhigh⟩ := roundEven_gap_bounds (Nat.le_of_not_lt h)
    rcases Nat.eq_or_lt_of_le hhigh with heq | hlt
    · -- The mantissa is carried to the next power of two.
      refine ⟨1, 53 + (n.log2 - 52), by decide, ?_⟩
      rw [nearest, heq, gap, Nat.pow_add, Nat.one_mul]
      rfl
    · exact ⟨_, _, hlt, rfl⟩

/-- A number of the format is a multiple of the gap about `n`, unless it is smaller than all numbers with this gap. -/
theorem FitsMantissa.gap_dvd {m : Nat} (hm : FitsMantissa m) {n : Nat} (h : 2 ^ n.log2 ≤ m) : gap n ∣ m := by
  obtain ⟨x, k, hx, rfl⟩ := hm
  have hlead : 2 * leadingBit = 2 ^ 53 := by decide
  have hpow : 2 ^ n.log2 < 2 ^ (53 + k) := by
    rw [Nat.pow_add, ← hlead]
    exact h.trans_lt (Nat.mul_lt_mul_of_pos_right hx (Nat.two_pow_pos k))
  have hlog : n.log2 < 53 + k := (Nat.pow_lt_pow_iff_right (by decide)).1 hpow
  have hdvd : gap n ∣ 2 ^ k := Nat.pow_dvd_pow 2 (by omega)
  exact hdvd.trans (Nat.dvd_mul_left _ _)

theorem nearest_eq_self_iff {n : Nat} : nearest n = n ↔ FitsMantissa n := by
  constructor
  · intro h
    rw [← h]
    exact fitsMantissa_nearest n
  · intro h
    rcases Nat.eq_zero_or_pos n with rfl | hn
    · rfl
    · exact nearest_of_gap_dvd (h.gap_dvd (Nat.log2_self_le hn.ne'))

theorem add_le_of_dvd_of_lt {a b d : Nat} (ha : d ∣ a) (hb : d ∣ b) (h : a < b) : a + d ≤ b := by
  have hdiff : d ≤ b - a := Nat.le_of_dvd (by omega) (Nat.dvd_sub hb ha)
  omega

/-- No number of the format is nearer. -/
theorem nearest_closest {n m : Nat} (hm : FitsMantissa m) :
    ((n : Int) - nearest n).natAbs ≤ ((n : Int) - m).natAbs := by
  rcases Nat.eq_zero_or_pos n with rfl | hn
  · exact Nat.zero_le _
  have hself : nearest m = m := nearest_eq_self_iff.2 hm
  have hpow : 2 ^ n.log2 ≤ n := Nat.log2_self_le hn.ne'
  have hnear : 2 * n ≤ 2 * nearest n + gap n ∧ 2 * nearest n ≤ 2 * n + gap n := roundEven_near (gap_pos n) n
  rcases Nat.le_total m n with hle | hle
  · have hkeep : m ≤ nearest n := hself ▸ nearest_mono hle
    rcases Nat.lt_or_ge n (nearest n) with hup | hdown
    · -- What lies below `n` lies a gap below the number that `n` is rounded up to.
      have hapart : m + gap n ≤ nearest n := by
        rcases Nat.lt_or_ge m (2 ^ n.log2) with hsmall | hlarge
        · have hdvd := (fitsMantissa_two_pow n.log2).gap_dvd (Nat.le_refl _)
          have hnext := add_le_of_dvd_of_lt hdvd (gap_dvd_nearest n) (hpow.trans_lt hup)
          omega
        · exact add_le_of_dvd_of_lt (hm.gap_dvd hlarge) (gap_dvd_nearest n) (hle.trans_lt hup)
      omega
    · omega
  · have hkeep : nearest n ≤ m := hself ▸ nearest_mono hle
    rcases Nat.lt_or_ge (nearest n) n with hdown | hup
    · have hapart := add_le_of_dvd_of_lt (gap_dvd_nearest n) (hm.gap_dvd (hpow.trans hle)) (hdown.trans_le hle)
      omega
    · omega

/-! ## Integers -/

/-- The integer with a sign and a size; zero has both signs. -/
def signed (negative : Bool) (n : Nat) : Int := if negative then -n else n

/-- The integer of the format nearest to `n`. -/
def nearestInt (n : Int) : Int := signed (n < 0) (nearest n.natAbs)

theorem nearestInt_signed (negative : Bool) (n : Nat) : nearestInt (signed negative n) = signed negative (nearest n) := by
  cases negative with
  | false => simp [nearestInt, signed]
  | true =>
    rcases Nat.eq_zero_or_pos n with rfl | hn
    · rfl
    · simp [nearestInt, signed, hn]

theorem nearestInt_mono {a b : Int} (h : a ≤ b) : nearestInt a ≤ nearestInt b := by
  rcases Int.lt_or_le b 0 with hb | hb
  · have ha : a < 0 := by omega
    have hsize := nearest_mono (show b.natAbs ≤ a.natAbs by omega)
    simp only [nearestInt, signed, ha, hb, decide_true, if_true]
    omega
  · rcases Int.lt_or_le a 0 with ha | ha
    · simp only [nearestInt, signed, ha, Int.not_lt.2 hb, decide_true, decide_false, if_true, Bool.false_eq_true, if_false]
      omega
    · have hsize := nearest_mono (show a.natAbs ≤ b.natAbs by omega)
      simp only [nearestInt, signed, Int.not_lt.2 ha, Int.not_lt.2 hb, decide_false, Bool.false_eq_true, if_false]
      omega

theorem nearestInt_eq_self_iff {n : Int} : nearestInt n = n ↔ FitsMantissa n.natAbs := by
  rw [← nearest_eq_self_iff]
  rcases Int.lt_or_le n 0 with hn | hn
  · simp only [nearestInt, signed, hn, decide_true, if_true]
    omega
  · simp only [nearestInt, signed, Int.not_lt.2 hn, decide_false, Bool.false_eq_true, if_false]
    omega

/-! ## Numbers that are whole -/

/-- How many units of 2^`lowest` make one. -/
def unitsInOne : Nat := 2 ^ (-lowest).toNat

theorem unitsInOne_pos : 0 < unitsInOne := Nat.two_pow_pos _

/-- The number is the whole number `n` with this sign. -/
def IsWhole (x : Binary64) (negative : Bool) (n : Nat) : Prop :=
  ∃ m q, x = .finite negative m q ∧ lowest ≤ q ∧ m * 2 ^ (q - lowest).toNat = n * unitsInOne

namespace IsWhole

variable {x y : Binary64} {s t : Bool} {a b : Nat}

theorem isFinite (h : IsWhole x s a) : x.isFinite = true := by
  obtain ⟨m, q, rfl, -⟩ := h
  rfl

theorem le_iff (hx : IsWhole x s a) (hy : IsWhole y t b) : x.le y = true ↔ signed s a ≤ signed t b := by
  obtain ⟨m, q, rfl, -, hm⟩ := hx
  obtain ⟨n, r, rfl, -, hn⟩ := hy
  have hunit : (0 : Int) < (unitsInOne : Int) := Int.natCast_pos.2 unitsInOne_pos
  have hscaled : ∀ (negative : Bool) (m : Nat) (q : Int) (a : Nat),
      m * 2 ^ (q - lowest).toNat = a * unitsInOne →
        scaled negative m q = signed negative a * unitsInOne := by
    intro negative m q a h
    have hsize : m <<< (q - lowest).toNat = a * unitsInOne := by rw [Nat.shiftLeft_eq, h]
    cases negative <;> simp only [scaled, signed, hsize, Int.natCast_mul, if_true, Bool.false_eq_true, if_false]
    exact (Int.neg_mul _ _).symm
  rw [le, decide_eq_true_iff, hscaled s m q a hm, hscaled t n r b hn]
  exact ⟨fun h => Int.le_of_mul_le_mul_right h hunit, fun h => Int.mul_le_mul_of_nonneg_right h hunit.le⟩

theorem truncate (h : IsWhole x s a) : x.truncate = some (signed s a) := by
  obtain ⟨m, q, rfl, hq, hm⟩ := h
  have hquot : (ratio m q).1 / (ratio m q).2 = a := by
    simp only [ratio]
    split
    · rename_i hpos
      have hexp : (q - lowest).toNat = q.toNat + (-lowest).toNat := by
        simp only [lowest]
        omega
      rw [hexp, Nat.pow_add, ← Nat.mul_assoc] at hm
      rw [Nat.div_one, Nat.shiftLeft_eq]
      exact Nat.eq_of_mul_eq_mul_right unitsInOne_pos hm
    · rename_i hneg
      have hexp : (-lowest).toNat = (-q).toNat + (q - lowest).toNat := by
        simp only [lowest] at hq ⊢
        omega
      rw [unitsInOne, hexp, Nat.pow_add, ← Nat.mul_assoc] at hm
      have hvalue : m = a * 2 ^ (-q).toNat := Nat.eq_of_mul_eq_mul_right (Nat.two_pow_pos _) hm
      rw [hvalue, Nat.one_shiftLeft]
      exact Nat.mul_div_cancel a (Nat.two_pow_pos _)
  simp only [Binary64.truncate, hquot, signed]

end IsWhole

/-- The first power of two that is too great for the format: 2^1024. -/
def beyond : Nat := 2 ^ (53 + highest.toNat)

/-- What a whole number is read as: itself, or infinite where the format ends. -/
def ReadsWhole (x : Binary64) (negative : Bool) (n : Nat) : Prop :=
  IsWhole x negative n ∨ x = .infinite negative ∧ beyond ≤ n

/-- A mantissa that uses all bits is packed as it is, but for the one that rounding has carried beyond them. -/
theorem readsWhole_pack (s : Bool) {m n : Nat} {q : Int} (hq : lowest ≤ q) (hlow : leadingBit ≤ m)
    (hvalue : m * 2 ^ (q - lowest).toNat = n * unitsInOne) : ReadsWhole (pack s m q) s n := by
  have hpack : ∀ (m : Nat) (q : Int), lowest ≤ q → leadingBit ≤ m →
      m * 2 ^ (q - lowest).toNat = n * unitsInOne →
        ReadsWhole (if q > highest then .infinite s else .finite s m q) s n := by
    intro m q hq hlow hvalue
    split
    · rename_i hhigh
      refine .inr ⟨rfl, ?_⟩
      have hlowest : lowest ≤ 0 := by decide
      have hhighest : 0 ≤ highest := by decide
      have hlead : leadingBit = 2 ^ 52 := by decide
      have hexp : 53 + highest.toNat + (-lowest).toNat ≤ 52 + (q - lowest).toNat := by omega
      have hbeyond : beyond * unitsInOne = 2 ^ (53 + highest.toNat + (-lowest).toNat) := by
        unfold beyond unitsInOne
        rw [Nat.pow_add 2 (53 + highest.toNat) (-lowest).toNat]
      refine Nat.le_of_mul_le_mul_right ?_ unitsInOne_pos
      rw [hbeyond]
      calc 2 ^ (53 + highest.toNat + (-lowest).toNat)
        ≤ 2 ^ (52 + (q - lowest).toNat) := Nat.pow_le_pow_right (by decide) hexp
        _ = leadingBit * 2 ^ (q - lowest).toNat := by rw [Nat.pow_add, hlead]
        _ ≤ m * 2 ^ (q - lowest).toNat := Nat.mul_le_mul_right _ hlow
        _ = n * unitsInOne := hvalue
    · exact .inl ⟨m, q, rfl, hq, hvalue⟩
  simp only [pack]
  by_cases hcarry : m = 2 * leadingBit
  · have hexp : (q + 1 - lowest).toNat = (q - lowest).toNat + 1 := by omega
    simp only [hcarry, if_true]
    refine hpack _ _ (by omega) (Nat.le_refl _) ?_
    rw [hexp, Nat.pow_succ', ← hvalue, hcarry]
    ring
  · simp only [hcarry, if_false]
    exact hpack m q hq hlow hvalue

theorem log2Ratio_one {n : Nat} (hn : n ≠ 0) : log2Ratio n 1 = n.log2 := by
  have hone : (1 : Nat).log2 = 0 := by decide
  have hpow : 1 <<< n.log2 ≤ n := by
    rw [Nat.one_shiftLeft]
    exact Nat.log2_self_le hn
  simp [log2Ratio, hone, hpow]

/-- A whole number is rounded to the nearest of the format. -/
theorem ofRatio_one (s : Bool) (n : Nat) : ReadsWhole (ofRatio s n 1) s (nearest n) := by
  rcases Nat.eq_zero_or_pos n with rfl | hn
  · have hzero : nearest 0 = 0 := by decide
    refine .inl ⟨0, lowest, rfl, Int.le_refl _, ?_⟩
    rw [hzero, Nat.zero_mul, Nat.zero_mul]
  have hexp : max ((n.log2 : Int) - 52) lowest = n.log2 - 52 := by
    simp only [lowest]
    omega
  simp only [ofRatio, if_neg hn.ne', log2Ratio_one hn.ne', hexp]
  by_cases hlog : n.log2 < 52
  · have hneg : ¬ ((n.log2 : Int) - 52 ≥ 0) := by omega
    have hround : roundEven (n <<< (-((n.log2 : Int) - 52)).toNat) 1 = n * 2 ^ (52 - n.log2) := by
      have hshift : (-((n.log2 : Int) - 52)).toNat = 52 - n.log2 := by omega
      have hexact := roundEven_mul (d := 1) (by decide) (n * 2 ^ (52 - n.log2))
      rw [hshift, Nat.shiftLeft_eq]
      rwa [Nat.mul_one] at hexact
    rw [if_neg hneg, hround, nearest_of_log2_lt hlog]
    apply readsWhole_pack s
    · simp only [lowest]
      omega
    · calc leadingBit = 2 ^ n.log2 * 2 ^ (52 - n.log2) := by
            rw [← Nat.pow_add, Nat.add_sub_cancel' hlog.le]
            rfl
        _ ≤ n * 2 ^ (52 - n.log2) := Nat.mul_le_mul_right _ (Nat.log2_self_le hn.ne')
    · have hsum : (-lowest).toNat = 52 - n.log2 + ((n.log2 : Int) - 52 - lowest).toNat := by
        simp only [lowest]
        omega
      rw [unitsInOne, hsum, Nat.pow_add, Nat.mul_assoc]
  · have hpos : (n.log2 : Int) - 52 ≥ 0 := by omega
    have hgap : 1 <<< ((n.log2 : Int) - 52).toNat = gap n := by
      have hshift : ((n.log2 : Int) - 52).toNat = n.log2 - 52 := by omega
      rw [hshift, Nat.one_shiftLeft, gap]
    rw [if_pos hpos, hgap]
    apply readsWhole_pack s
    · simp only [lowest]
      omega
    · exact (roundEven_gap_bounds (Nat.le_of_not_lt hlog)).1
    · have hsum : ((n.log2 : Int) - 52 - lowest).toNat = n.log2 - 52 + (-lowest).toNat := by
        simp only [lowest]
        omega
      rw [hsum, Nat.pow_add, nearest, gap, Nat.mul_assoc]
      rfl

end FieldRules.Binary64
