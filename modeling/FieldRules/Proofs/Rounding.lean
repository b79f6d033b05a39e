import FieldRules.Proofs.Conversions
import FieldRules.Proofs.Range
/-!
# Rounding to places

A number is multiplied by a power of ten, rounded to a whole number, and divided by the power again. The powers are
finite up to 10^308 and infinite above (`nearPower_power`). What is rounded is a finite number, but the result is one
only if the power is finite and not zero and neither the product nor the quotient is too great (`isFinite_roundTo_iff`).
So a conversion to a float delivers finite numbers, and a conversion to a rounded one as far as this goes
(`Target.convert_isFinite_iff`).
-/

namespace FieldRules

open FieldRules.Text

namespace Binary64

/-! ## Powers of ten -/

theorem one_le_ten_mul : 1 ≤ 10 * (1 - roundoff) := by norm_num [roundoff, leadingBit]

/-- The size lies between these. A number may be infinite if the upper one is too great. -/
inductive Between (low high : ℚ) : Binary64 → Prop
  | finite {m : Nat} {q : Int} (hlow : low ≤ m * 2 ^ q) (hhigh : m * 2 ^ q ≤ high) (hgreatest : m * 2 ^ q ≤ greatest) :
      Between low high (.finite false m q)
  | infinite (hrange : overflow ≤ high) : Between low high (.infinite false)

/-- What is at least one is rounded with a relative error. -/
theorem Rounds.between {x : Binary64} {v low high : ℚ} (h : Rounds false v x) (hv : 1 ≤ v) (hlow : low ≤ v)
    (hhigh : v ≤ high) : Between (low * (1 - roundoff)) (high * (1 + roundoff)) x := by
  have hoff := roundoff_pos
  have hup : v * (1 + roundoff) ≤ high * (1 + roundoff) := mul_le_mul_of_nonneg_right hhigh (by linarith)
  cases h with
  | finite _ hgreatest herror =>
    have hsmall : (2 : ℚ) ^ (lowest - 1) ≤ roundoff := by
      have hunit : roundoff = 2 ^ (-53 : Int) := by norm_num [roundoff, leadingBit]
      rw [hunit]
      exact zpow_le_zpow_right₀ (by norm_num) (by decide)
    have hmax : max (v * roundoff) (2 ^ (lowest - 1)) ≤ v * roundoff :=
      max_le le_rfl (hsmall.trans (le_mul_of_one_le_left hoff.le hv))
    have hdown : low * (1 - roundoff) ≤ v * (1 - roundoff) :=
      mul_le_mul_of_nonneg_right hlow (by linarith [roundoff_lt_one])
    obtain ⟨hbelow, habove⟩ := abs_le.1 (herror.trans hmax)
    exact .finite (by linarith) (by linarith) hgreatest
  | infinite hrange =>
    have hstep : v ≤ v * (1 + roundoff) := le_mul_of_one_le_right (by linarith) (by linarith)
    exact .infinite (by linarith)

theorem Between.mul {a b c d : ℚ} {x y : Binary64} (hx : Between a b x) (hy : Between c d y) (ha : 1 ≤ a) (hb : 1 ≤ b)
    (hc : 1 ≤ c) (hd : 1 ≤ d) : Between (a * c * (1 - roundoff)) (b * d * (1 + roundoff)) (x.mul y) := by
  -- A factor that may be infinite makes the product so.
  have hproduct : ∀ {z : ℚ}, overflow ≤ z → z ≤ b * d → overflow ≤ b * d * (1 + roundoff) := fun hz hle =>
    (hz.trans hle).trans (le_mul_of_one_le_right (by positivity) (by linarith [roundoff_pos]))
  cases hx with
  | @finite m q hxlow hxhigh =>
    cases hy with
    | @finite n r hylow hyhigh =>
      have h : Rounds false (m * 2 ^ q * (n * 2 ^ r)) ((Binary64.finite false m q).mul (.finite false n r)) :=
        rounds_mul (x := .finite false m q) (y := .finite false n r) rfl rfl
      exact h.between (one_le_mul_of_one_le_of_one_le (ha.trans hxlow) (hc.trans hylow))
        (mul_le_mul hxlow hylow (by linarith) (by linarith)) (mul_le_mul hxhigh hyhigh (by linarith) (by linarith))
    | infinite hrange =>
      have hm : m ≠ 0 := by
        rintro rfl
        norm_num at hxlow
        linarith
      simp only [Binary64.mul, hm, if_false]
      exact .infinite (hproduct hrange (le_mul_of_one_le_left (by linarith) hb))
  | infinite hrange =>
    have hover := hproduct hrange (le_mul_of_one_le_right (by linarith) hd)
    cases hy with
    | @finite n r hylow =>
      have hn : n ≠ 0 := by
        rintro rfl
        norm_num at hylow
        linarith
      simp only [Binary64.mul, hn, if_false]
      exact .infinite hover
    | infinite => exact .infinite hover

/-- The number is 10^n up to the errors of `e` roundings. -/
def NearPower (n e : Nat) : Binary64 → Prop := Between (10 ^ n * (1 - roundoff) ^ e) (10 ^ n * (1 + roundoff) ^ e)

theorem one_le_lower {n e : Nat} (h : e ≤ n) : (1 : ℚ) ≤ 10 ^ n * (1 - roundoff) ^ e := by
  calc (1 : ℚ) ≤ 10 ^ (n - e) * (10 * (1 - roundoff)) ^ e :=
        one_le_mul_of_one_le_of_one_le (one_le_pow₀ (by norm_num)) (one_le_pow₀ one_le_ten_mul)
    _ = 10 ^ n * (1 - roundoff) ^ e := by
        rw [mul_pow, ← mul_assoc, ← pow_add, Nat.sub_add_cancel h]

theorem one_le_upper (n e : Nat) : (1 : ℚ) ≤ 10 ^ n * (1 + roundoff) ^ e :=
  one_le_mul_of_one_le_of_one_le (one_le_pow₀ (by norm_num)) (one_le_pow₀ (by linarith [roundoff_pos]))

theorem NearPower.mul {n e k f : Nat} {x y : Binary64} (hx : NearPower n e x) (hy : NearPower k f y) (he : e ≤ n)
    (hf : f ≤ k) : NearPower (n + k) (e + f + 1) (x.mul y) := by
  have h := Between.mul hx hy (one_le_lower he) (one_le_upper n e) (one_le_lower hf) (one_le_upper k f)
  rw [NearPower]
  convert h using 1 <;> ring

theorem NearPower.powerOn {a b n bits : Nat} {base acc : Binary64} (hbase : NearPower (b + 1) b base)
    (hacc : NearPower a a acc) (hn : n < 2 ^ bits) :
    NearPower (a + (b + 1) * n) (a + (b + 1) * n) (base.powerOn acc n bits) := by
  -- A square doubles the exponent and the roundings and is rounded once more. So the base keeps one rounding less than
  -- its exponent, and a factor more in `acc` brings no more roundings than tens.
  induction bits generalizing a b n base acc with
  | zero =>
    obtain rfl : n = 0 := by omega
    exact hacc
  | succ bits ih =>
    have hhalf : n / 2 < 2 ^ bits := by omega
    have hexp : (b + b + 1 + 1) * (n / 2) + (b + 1) * (n % 2) = (b + 1) * n := by
      conv => rhs; rw [← Nat.div_add_mod n 2]
      ring
    have hsquare : NearPower (b + b + 1 + 1) (b + b + 1) (base.mul base) := by
      have h := hbase.mul hbase (Nat.le_succ b) (Nat.le_succ b)
      rwa [← Nat.add_assoc, Nat.add_right_comm b 1 b] at h
    rw [Binary64.powerOn, ← hexp]
    by_cases hodd : n % 2 = 1
    · have hnext : NearPower (a + (b + 1)) (a + (b + 1)) (acc.mul base) := hacc.mul hbase le_rfl (Nat.le_succ b)
      rw [if_pos hodd, hodd, Nat.mul_one, Nat.add_comm _ (b + 1), ← Nat.add_assoc]
      exact ih hsquare hnext hhalf
    · have heven : n % 2 = 0 := by omega
      rw [if_neg hodd, heven, Nat.mul_zero, Nat.add_zero]
      exact ih hsquare hacc hhalf

theorem ofInt_one : ofInt 1 = .finite false leadingBit (-52) := by decide +kernel

theorem nearPower_one : NearPower 0 0 (ofInt 1) := by
  rw [ofInt_one]
  exact .finite (by norm_num [leadingBit]) (by norm_num [leadingBit]) (by decide +kernel)

theorem nearPower_ten : NearPower 1 0 (ofInt 10) := by
  have hten : ofInt 10 = .finite false 0x14000000000000 (-49) := by decide +kernel
  rw [hten]
  exact .finite (by norm_num) (by norm_num [roundoff, leadingBit]) (by decide +kernel)

theorem nearPower_power (n : Nat) : NearPower n n ((ofInt 10).power n) := by
  have h := nearPower_ten.powerOn nearPower_one (Nat.lt_log2_self (n := n))
  have hnonneg : ¬ (n : Int) < 0 := by omega
  simpa only [power, hnonneg, if_false, Int.natAbs_natCast, Nat.zero_add, Nat.one_mul] using h

theorem upper_lt_overflow : (10 * (1 + roundoff)) ^ 308 < overflow := by decide +kernel

theorem overflow_le_lower : overflow ≤ (10 * (1 - roundoff)) ^ 309 := by decide +kernel

/-- Up to 10^308 a power is a number of the format. -/
theorem isFinite_power {n : Nat} (hn : n ≤ 308) :
    ((ofInt 10).power n).isFinite = true ∧ (10 * (1 - roundoff)) ^ n ≤ ((ofInt 10).power n).size ∧
      ((ofInt 10).power n).size ≤ greatest := by
  have h := nearPower_power n
  rw [NearPower, ← mul_pow, ← mul_pow] at h
  generalize (ofInt 10).power n = x at h ⊢
  cases h with
  | finite hlow _ hgreatest => exact ⟨rfl, hlow, hgreatest⟩
  | infinite hrange =>
    have hbase : (1 : ℚ) ≤ 10 * (1 + roundoff) := by linarith [roundoff_pos]
    exact absurd (hrange.trans (pow_le_pow_right₀ hbase hn)) upper_lt_overflow.not_ge

theorem power_eq_infinite {n : Nat} (hn : 308 < n) : (ofInt 10).power n = .infinite false := by
  have h := nearPower_power n
  rw [NearPower, ← mul_pow, ← mul_pow] at h
  generalize (ofInt 10).power n = x at h ⊢
  cases h with
  | finite hlow _ hgreatest =>
    have hover := overflow_le_lower.trans ((pow_le_pow_right₀ one_le_ten_mul hn).trans hlow)
    linarith [greatest_add_one_lt_overflow]
  | infinite => rfl

theorem power_neg {n : Nat} (hn : 0 < n) : (ofInt 10).power (-n) = (ofInt 1).div ((ofInt 10).power n) := by
  have hneg : (-n : Int) < 0 := by omega
  have hnonneg : ¬ (n : Int) < 0 := by omega
  simp only [power, hneg, hnonneg, if_true, if_false, Int.natAbs_neg]

/-- A negative power is at most one, and not zero up to 10^-308. -/
theorem isFinite_power_neg {n : Nat} (hpos : 0 < n) (hn : n ≤ 308) :
    ((ofInt 10).power (-n)).isFinite = true ∧ 0 < ((ofInt 10).power (-n)).size ∧
      ((ofInt 10).power (-n)).size ≤ 1 := by
  obtain ⟨hfinite, hlow, hgreatest⟩ := isFinite_power hn
  have hone : (ofInt 1).isFinite = true ∧ (ofInt 1).size = 1 := by
    rw [ofInt_one]
    exact ⟨rfl, by norm_num [size, leadingBit]⟩
  have hten : 2 ≤ ((ofInt 10).power n).size := by
    have hbase : (2 : ℚ) ≤ 10 * (1 - roundoff) := by norm_num [roundoff, leadingBit]
    exact hbase.trans ((le_self_pow₀ one_le_ten_mul hpos.ne').trans hlow)
  have hover : ((ofInt 10).power n).size < overflow := by linarith [greatest_add_one_lt_overflow]
  rw [power_neg hpos]
  generalize (ofInt 10).power n = x at hfinite hten hover ⊢
  have h := rounds_div hone.1 hfinite (by linarith)
  rw [hone.2] at h
  generalize (ofInt 1).div x = y at h ⊢
  have hhalf : 1 / x.size ≤ 1 / 2 := one_div_le_one_div_of_le (by norm_num) hten
  have hsmall : (2 : ℚ) ^ (lowest - 1) < 1 / x.size := by
    have hbound : (2 : ℚ) ^ (lowest - 1) < 1 / overflow := by decide +kernel
    exact hbound.trans (one_div_lt_one_div_of_lt (by linarith) hover)
  cases h with
  | finite hrange _ herror =>
    have hpositive : (0 : ℚ) < 1 / x.size := one_div_pos.2 (by linarith)
    have hmax : max (1 / x.size * roundoff) (2 ^ (lowest - 1)) < 1 / x.size :=
      max_lt (mul_lt_of_lt_one_right hpositive roundoff_lt_one) hsmall
    obtain ⟨hbelow, habove⟩ := abs_lt.1 (herror.trans_lt hmax)
    exact ⟨rfl, by simp only [size]; linarith, by simp only [size]; linarith⟩
  | infinite hrange => linarith [greatest_add_one_lt_overflow, zero_le_greatest]

theorem power_neg_eq_zero {n : Nat} (hn : 308 < n) : (ofInt 10).power (-n) = zero false := by
  rw [power_neg (by omega), power_eq_infinite hn, ofInt_one]
  rfl

/-! ## Rounding to places -/

/-- The power of ten that a count of places is taken for. From 2^31 on the count is negative. -/
def factor (precision : Nat) : Binary64 :=
  (ofInt 10).power (if precision < bound31 then precision else (precision : Int) - bound32)

theorem roundTo_eq (x : Binary64) (precision : Nat) :
    roundTo x precision = (x.mul (factor precision)).roundHalfAway.div (factor precision) := rfl

/-- Rounding does not leave the numbers of the format. For counts between these two kinds the power of ten is infinite
or zero. -/
inductive RoundsInRange (x : Binary64) (precision : Nat) : Prop
  /-- Places behind the point: the product with the power of ten is not too great. -/
  | decimals (hplaces : precision ≤ 308) (hproduct : x.size * (factor precision).size < overflow)
  /-- Places before the point, as the count is taken for a negative one: the quotient is not too great. -/
  | tens (hplaces : bound32 ≤ precision + 308)
      (hquotient : (x.mul (factor precision)).roundHalfAway.size / (factor precision).size < overflow)

variable {x y : Binary64} {precision : Nat}

theorem mul_infinite_div (hx : x.isFinite = true) (s : Bool) :
    (x.mul (.infinite s)).roundHalfAway.div (.infinite s) = .nan := by
  obtain ⟨t, m, q, rfl⟩ := exists_of_isFinite hx
  by_cases hm : m = 0 <;> simp [mul, hm, roundHalfAway, div]

theorem mul_zero_div (hx : x.isFinite = true) (s : Bool) : (x.mul (zero s)).roundHalfAway.div (zero s) = .nan := by
  obtain ⟨t, m, q, rfl⟩ := exists_of_isFinite hx
  have hproduct : (Binary64.finite t m q).mul (zero s) = zero (t != s) := rfl
  have hround : ∀ s, (zero s).roundHalfAway = zero s := by decide +kernel
  rw [hproduct, hround]
  rfl

/-- With a finite power it is the product and the quotient that may be too great. -/
theorem isFinite_mul_div_iff (hx : x.isFinite = true) (hy : y.isFinite = true) (hzero : y.size ≠ 0) :
    ((x.mul y).roundHalfAway.div y).isFinite = true ↔
      x.size * y.size < overflow ∧ (x.mul y).roundHalfAway.size / y.size < overflow := by
  have hproduct := rounds_mul hx hy
  by_cases hrange : x.size * y.size < overflow
  · obtain ⟨hfinite, -⟩ := isFinite_roundHalfAway (hproduct.isFinite_iff.2 hrange) hproduct.size_le_greatest
    rw [(rounds_div hfinite hy hzero).isFinite_iff]
    exact (and_iff_right hrange).symm
  · refine iff_of_false ?_ fun h => hrange h.1
    obtain ⟨t, n, r, rfl⟩ := exists_of_isFinite hy
    generalize (x.mul (.finite t n r)) = product at hproduct ⊢
    cases hproduct with
    | finite hin => exact absurd hin hrange
    | infinite => exact Bool.false_ne_true

theorem factor_of_lt (hp : precision < bound31) : factor precision = (ofInt 10).power precision := by
  rw [factor, if_pos hp]

theorem factor_of_ge (hp : bound31 ≤ precision) (hp' : precision < bound32) :
    factor precision = (ofInt 10).power (-(bound32 - precision : Nat)) := by
  have hplaces : (precision : Int) - bound32 = -(bound32 - precision : Nat) := by omega
  rw [factor, if_neg hp.not_gt, hplaces]

/-- So many places that the power of ten is infinite or zero leave no number. -/
theorem roundTo_eq_nan (hx : x.isFinite = true) (hlow : 308 < precision) (hhigh : precision + 308 < bound32) :
    roundTo x precision = .nan := by
  rw [roundTo_eq]
  rcases Nat.lt_or_ge precision bound31 with hp | hp
  · rw [factor_of_lt hp, power_eq_infinite hlow]
    exact mul_infinite_div hx false
  · rw [factor_of_ge hp (by omega), power_neg_eq_zero (by omega)]
    exact mul_zero_div hx false

theorem isFinite_roundTo_decimals (hx : x.isFinite = true) (hp : precision ≤ 308) :
    (roundTo x precision).isFinite = true ↔ x.size * (factor precision).size < overflow := by
  have hbound : bound31 = 0x80000000 := rfl
  obtain ⟨hfinite, hlow, -⟩ := isFinite_power hp
  have hone : 1 ≤ (factor precision).size := by
    rw [factor_of_lt (by omega)]
    exact (one_le_pow₀ one_le_ten_mul).trans hlow
  rw [← factor_of_lt (by omega)] at hfinite
  rw [roundTo_eq, isFinite_mul_div_iff hx hfinite (by linarith)]
  refine and_iff_left_of_imp fun hrange => ?_
  have hproduct := rounds_mul hx hfinite
  obtain ⟨-, hround⟩ := isFinite_roundHalfAway (hproduct.isFinite_iff.2 hrange) hproduct.size_le_greatest
  exact ((div_le_self (size_nonneg _) hone).trans hround).trans_lt (by linarith [greatest_add_one_lt_overflow])

theorem isFinite_roundTo_tens (hx : x.isFinite = true) (hsize : x.size ≤ greatest) (hp : bound32 ≤ precision + 308)
    (hp' : precision < bound32) : (roundTo x precision).isFinite = true ↔
      (x.mul (factor precision)).roundHalfAway.size / (factor precision).size < overflow := by
  have hbounds : bound31 = 0x80000000 ∧ bound32 = 0x100000000 := ⟨rfl, rfl⟩
  obtain ⟨hfinite, hpos, hone⟩ := isFinite_power_neg (n := bound32 - precision) (by omega) (by omega)
  rw [← factor_of_ge (by omega) hp'] at hfinite hpos hone
  rw [roundTo_eq, isFinite_mul_div_iff hx hfinite hpos.ne']
  refine and_iff_right ?_
  calc x.size * (factor precision).size ≤ x.size := mul_le_of_le_one_right (size_nonneg x) hone
    _ ≤ greatest := hsize
    _ < overflow := by linarith [greatest_add_one_lt_overflow]

/-- A finite number is rounded to a finite one just if the rounding stays in the range. -/
theorem isFinite_roundTo_iff (hx : x.isFinite = true) (hsize : x.size ≤ greatest) (hp : precision < bound32) :
    (roundTo x precision).isFinite = true ↔ RoundsInRange x precision := by
  have hbound : bound32 = 0x100000000 := rfl
  rcases Nat.lt_or_ge 308 precision with hlow | hlow
  · rcases Nat.lt_or_ge (precision + 308) bound32 with hhigh | hhigh
    · rw [roundTo_eq_nan hx hlow hhigh]
      refine iff_of_false Bool.false_ne_true ?_
      rintro (⟨hplaces, -⟩ | ⟨hplaces, -⟩) <;> omega
    · rw [isFinite_roundTo_tens hx hsize hhigh hp]
      refine ⟨.tens hhigh, ?_⟩
      rintro (⟨hplaces, -⟩ | ⟨-, hquotient⟩)
      · omega
      · exact hquotient
  · rw [isFinite_roundTo_decimals hx hlow]
    refine ⟨.decimals hlow, ?_⟩
    rintro (⟨-, hproduct⟩ | ⟨hplaces, -⟩)
    · exact hproduct
    · omega

/-! ## What is read -/

theorem size_le_greatest_toBinary64 (d : Decimal) : d.toBinary64.size ≤ greatest := by
  have hzero : (zero d.negative).size ≤ greatest := by
    have hsize : (zero d.negative).size = 0 := by rw [zero, size, Nat.cast_zero, zero_mul]
    exact hsize.trans_le zero_le_greatest
  have hden : 0 < (decimalRatio d.digits d.power).2 := by
    unfold decimalRatio
    split
    · exact Nat.one_pos
    · exact Nat.pow_pos (by decide)
  simp only [Decimal.toBinary64]
  split_ifs
  · exact hzero
  · exact zero_le_greatest
  · exact hzero
  · exact (rounds_ofRatio d.negative _ hden).size_le_greatest

theorem size_le_greatest_of_read? {s : String} (h : Binary64.read? s = some x) : x.size ≤ greatest := by
  simp only [Binary64.read?] at h
  split_ifs at h
  · cases h
    exact zero_le_greatest
  · cases h
    exact zero_le_greatest
  · obtain ⟨d, -, rfl⟩ := Option.map_eq_some_iff.1 h
    exact size_le_greatest_toBinary64 d

end Binary64

theorem parseFiniteFloat_spec {numeral : String} {x : Binary64} (h : parseFiniteFloat numeral = .ok x) :
    x.isFinite = true ∧ x.size ≤ Binary64.greatest := by
  unfold parseFiniteFloat at h
  cases hread : Binary64.read? numeral with
  | none =>
    rw [hread] at h
    cases h
  | some y =>
    simp only [hread] at h
    split_ifs at h with hfinite
    cases h
    exact ⟨hfinite, Binary64.size_le_greatest_of_read? hread⟩

/-! ## Conversions -/

namespace Target

theorem lt_bound32_of_precision {t : Token} {n : Nat} (h : precision t = .ok n) : n < bound32 := by
  unfold precision at h
  split at h
  · cases h
    decide
  · rename_i raw _ _
    cases hcount : parseCount Test.format.name raw with
    | error fault =>
      rw [hcount] at h
      cases h
    | ok count =>
      simp only [hcount, bind, Except.bind] at h
      split_ifs at h with hcount
      cases h
      exact hcount

theorem lt_bound32_of_ofToken {t : Token} {n : Nat} (h : ofToken t = .ok (.round n)) : n < bound32 := by
  unfold ofToken at h
  split at h
  case h_5 =>
    cases hprecision : precision t with
    | error fault =>
      rw [hprecision] at h
      cases h
    | ok count =>
      rw [hprecision] at h
      cases h
      exact lt_bound32_of_precision hprecision
  all_goals cases h

theorem ofText?_float_eq_some_iff {s : String} {w : Value} : Target.float.ofText? s = some w ↔
    ∃ x, parseFiniteFloat (normalizeDecimal s) = .ok x ∧ w = .float x := by
  simp only [ofText?]
  cases parseFiniteFloat (normalizeDecimal s) <;> simp [Except.toOption, eq_comm]

theorem ofText?_round_eq_some_iff {n : Nat} {s : String} {w : Value} : (Target.round n).ofText? s = some w ↔
    ∃ x, parseFiniteFloat (normalizeDecimal s) = .ok x ∧ w = .float (roundTo x n) := by
  simp only [ofText?]
  cases parseFiniteFloat (normalizeDecimal s) <;> simp [Except.toOption, eq_comm]

theorem convertScalar_eq_ok_iff {target : Target} (hstring : target ≠ .string) (hboolean : target ≠ .boolean)
    {v w : Value} {text : String} : convertScalar target v text = .ok w ↔ target.ofText? (trim text) = some w := by
  have hread : convertScalar target v text =
      (target.ofText? (trim text)).elim (.error (.notConvertible (trim text) target)) .ok := by
    cases target with
    | string => exact absurd rfl hstring
    | boolean => exact absurd rfl hboolean
    | _ =>
      simp only [convertScalar]
      split <;> simp only [*, Option.elim]
  rw [hread]
  cases target.ofText? (trim text) <;> simp

/-- A node is left as it is, or its text is converted. -/
theorem convert_cases (v : Value) : (∀ x, v ≠ .float x) ∧ (∀ target : Target, target.convert v = .ok v) ∨
    ∃ text, ∀ target : Target, target.convert v = convertScalar target v text := by
  cases v with
  | null | upload | map => exact .inl ⟨fun _ => by simp, fun _ => rfl⟩
  | text s =>
    cases hblank : isBlankText s with
    | true => exact .inl ⟨fun _ => by simp, fun _ => by simp [convert, Value.isBlank, hblank]⟩
    | false => exact .inr ⟨s, fun _ => by simp [convert, Value.isBlank, hblank, Value.scalarText?]⟩
  | _ => exact .inr ⟨_, fun _ => rfl⟩

/-- A node that is no number is left as it is by both conversions to a number, or both read the same number in it. -/
theorem convert_number_cases (v : Value) : (∀ x, v ≠ .float x) ∧ (∀ target : Target, target.convert v = .ok v) ∨
    ∃ numeral, (∀ w, Target.float.convert v = .ok w ↔ ∃ x, parseFiniteFloat numeral = .ok x ∧ w = .float x) ∧
      ∀ n w, (Target.round n).convert v = .ok w ↔ ∃ x, parseFiniteFloat numeral = .ok x ∧ w = .float (roundTo x n) := by
  refine (convert_cases v).imp_right ?_
  rintro ⟨text, htext⟩
  refine ⟨normalizeDecimal (trim text), fun w => ?_, fun n w => ?_⟩
  · rw [htext, convertScalar_eq_ok_iff (by decide) (by decide), ofText?_float_eq_some_iff]
  · rw [htext, convertScalar_eq_ok_iff (by simp) (by simp), ofText?_round_eq_some_iff]

theorem isFinite_of_convert_float {v : Value} {x : Binary64} (h : Target.float.convert v = .ok (.float x)) :
    x.isFinite = true ∧ x.size ≤ Binary64.greatest := by
  rcases convert_number_cases v with ⟨hv, hkeep⟩ | ⟨numeral, hfloat, -⟩
  · rw [hkeep] at h
    exact absurd (Except.ok.inj h) (hv x)
  · obtain ⟨y, hy, heq⟩ := (hfloat _).1 h
    cases heq
    exact parseFiniteFloat_spec hy

/-- A conversion to a rounded number fails just if that to a float does. -/
theorem exists_convert_round_iff {n : Nat} {v : Value} :
    (∃ w, (Target.round n).convert v = .ok w) ↔ ∃ w, Target.float.convert v = .ok w := by
  rcases convert_number_cases v with ⟨-, hkeep⟩ | ⟨numeral, hfloat, hround⟩
  · exact iff_of_true ⟨v, hkeep _⟩ ⟨v, hkeep _⟩
  · simp only [hfloat, hround]
    constructor
    · rintro ⟨-, x, hx, -⟩
      exact ⟨_, x, hx, rfl⟩
    · rintro ⟨-, x, hx, -⟩
      exact ⟨_, x, hx, rfl⟩

/-- A conversion to a rounded number rounds what a conversion to a float delivers. -/
theorem convert_round_iff {n : Nat} {v w : Value} : (Target.round n).convert v = .ok w ↔
    (∃ x, Target.float.convert v = .ok (.float x) ∧ w = .float (roundTo x n)) ∨
      (∀ x, v ≠ .float x) ∧ Target.float.convert v = .ok v ∧ w = v := by
  rcases convert_number_cases v with ⟨hv, hkeep⟩ | ⟨numeral, hfloat, hround⟩
  · rw [hkeep, hkeep, Except.ok.injEq]
    constructor
    · rintro rfl
      exact .inr ⟨hv, rfl, rfl⟩
    · rintro (⟨x, hx, -⟩ | ⟨-, -, rfl⟩)
      · exact absurd (Except.ok.inj hx) (hv x)
      · rfl
  · simp only [hfloat, hround]
    constructor
    · rintro ⟨x, hx, rfl⟩
      exact .inl ⟨x, ⟨x, hx, rfl⟩, rfl⟩
    · rintro (⟨x, ⟨y, hy, heq⟩, rfl⟩ | ⟨hv, ⟨x, -, rfl⟩, -⟩)
      · cases heq
        exact ⟨x, hy, rfl⟩
      · exact absurd rfl (hv x)

/-- What is delivered is finite, unless the conversion rounds and the rounding leaves the range. -/
theorem isFinite_iff_of_convert {t : Token} {target : Target} (ht : ofToken t = .ok target)
    (htarget : target = .float ∨ ∃ n, target = .round n) {v w : Value} (h : target.convert v = .ok w) :
    (∀ y, w = .float y → y.isFinite = true) ↔
      ∀ n x, target = .round n → Target.float.convert v = .ok (.float x) → Binary64.RoundsInRange x n := by
  rcases htarget with rfl | ⟨n, rfl⟩
  · refine iff_of_true ?_ fun n x hn => by cases hn
    rintro y rfl
    exact (isFinite_of_convert_float h).1
  · rcases convert_round_iff.1 h with ⟨x, hfloat, rfl⟩ | ⟨hv, hfloat, rfl⟩
    · obtain ⟨hfinite, hsize⟩ := isFinite_of_convert_float hfloat
      have hround := Binary64.isFinite_roundTo_iff hfinite hsize (lt_bound32_of_ofToken ht)
      constructor
      · intro hw m y hm hy
        cases hm
        rw [hfloat] at hy
        cases hy
        exact hround.1 (hw _ rfl)
      · intro hrange y hy
        cases hy
        exact hround.2 (hrange n x rfl hfloat)
    · refine iff_of_true (fun y hy => absurd hy (hv y)) fun m x _ hx => ?_
      rw [hfloat] at hx
      cases hx
      exact absurd rfl (hv x)

/-- A conversion to a number fails where that to a float fails, or it delivers a finite number, unless it rounds and the
rounding leaves the range. -/
theorem convert_isFinite_iff {t : Token} {target : Target} (ht : ofToken t = .ok target)
    (htarget : target = .float ∨ ∃ n, target = .round n) (v : Value) :
    ((∃ fault, target.convert v = .error fault) ∧ ∃ fault, Target.float.convert v = .error fault) ∨
      ∃ w, target.convert v = .ok w ∧ ((∀ y, w = .float y → y.isFinite = true) ↔
        ∀ n x, target = .round n → Target.float.convert v = .ok (.float x) → Binary64.RoundsInRange x n) := by
  cases h : target.convert v with
  | ok w => exact .inr ⟨w, rfl, isFinite_iff_of_convert ht htarget h⟩
  | error fault =>
    refine .inl ⟨⟨fault, rfl⟩, ?_⟩
    rcases htarget with rfl | ⟨n, rfl⟩
    · exact ⟨fault, h⟩
    · cases hfloat : Target.float.convert v with
      | error fault => exact ⟨fault, rfl⟩
      | ok w =>
        obtain ⟨y, hy⟩ := exists_convert_round_iff.2 ⟨w, hfloat⟩
        rw [h] at hy
        cases hy

theorem convert_isFinite_iff_quarter :
    ofToken { test := .format, modifiers := [.round], values := ["1"] } = .ok (.round 1) ∧
      (Target.round 1).convert (.text "2.25") = .ok (.float (Binary64.ofRatio false 23 10)) ∧
      Target.float.convert (.text "2.25") = .ok (.float (Binary64.ofRatio false 9 4)) ∧
      Binary64.RoundsInRange (Binary64.ofRatio false 9 4) 1 := by
  have htarget : ofToken { test := .format, modifiers := [.round], values := ["1"] } = .ok (.round 1) := by
    decide +kernel
  have hfloat : Target.float.convert (.text "2.25") = .ok (.float (Binary64.ofRatio false 9 4)) :=
    convert_text (by decide) (by decide) (ofText?_float_eq_some_iff.2 ⟨_, by decide +kernel, rfl⟩)
  have hplaces : roundTo (Binary64.ofRatio false 9 4) 1 = Binary64.ofRatio false 23 10 := by decide +kernel
  have hround : (Target.round 1).convert (.text "2.25") = .ok (.float (Binary64.ofRatio false 23 10)) :=
    convert_round_iff.2 (.inl ⟨_, hfloat, by rw [hplaces]⟩)
  have hfinite : (Binary64.ofRatio false 23 10).isFinite = true := by decide +kernel
  rcases convert_isFinite_iff htarget (.inr ⟨1, rfl⟩) (.text "2.25") with ⟨⟨fault, herror⟩, -⟩ | ⟨w, hw, hrange⟩
  · rw [hround] at herror
    cases herror
  · obtain rfl := Except.ok.inj (hround.symm.trans hw)
    exact ⟨htarget, hround, hfloat, hrange.1 (fun y hy => Value.float.inj hy ▸ hfinite) 1 _ rfl hfloat⟩

/-- The power is infinite, or the product with it. -/
theorem rounding_not_finite :
    ofToken { test := .format, modifiers := [.round], values := ["400"] } = .ok (.round 400) ∧
      (Target.round 400).convert (.text "1") = .ok (.float .nan) ∧
      (Target.round 10).convert (.text "1e300") = .ok (.float (.infinite false)) := by
  have hone : Target.float.convert (.text "1") = .ok (.float (Binary64.ofInt 1)) :=
    convert_text (by decide) (by decide) (ofText?_float_eq_some_iff.2 ⟨_, by decide +kernel, rfl⟩)
  have hgreat : Target.float.convert (.text "1e300") = .ok (.float (Binary64.ofInt (10 ^ 300))) :=
    convert_text (by decide) (by decide) (ofText?_float_eq_some_iff.2 ⟨_, by decide +kernel, rfl⟩)
  have hpower : roundTo (Binary64.ofInt 1) 400 = .nan := by decide +kernel
  have hproduct : roundTo (Binary64.ofInt (10 ^ 300)) 10 = .infinite false := by decide +kernel
  exact ⟨by decide +kernel, convert_round_iff.2 (.inl ⟨_, hone, by rw [hpower]⟩),
    convert_round_iff.2 (.inl ⟨_, hgreat, by rw [hproduct]⟩)⟩

end Target

end FieldRules
