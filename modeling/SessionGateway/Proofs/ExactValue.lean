import Mathlib
import SessionGateway.Number.Binary64

/-! The rational number that a finite real denotes, and the whole number nearest to a quotient. -/

namespace SessionGateway

theorem power_zero (b : Nat) : power b 0 = 1 := rfl

theorem roundHalfEven_le (n d : Nat) : roundHalfEven n d ≤ n / d + 1 := by
  unfold roundHalfEven
  split <;> omega

/-- The whole number that is nearest, and the even one if two are. -/
structure IsNearest (q : ℚ) (n : ℤ) : Prop where
  nearest : ∀ m : ℤ, |q - n| ≤ |q - m|
  even : ∀ m : ℤ, m ≠ n → |q - m| = |q - n| → Even n

/-- Half a unit decides, since the distances to two whole numbers add up to a unit at least. -/
theorem isNearest_of_abs_le_half {q : ℚ} {n : ℤ} (h : |q - n| ≤ 1 / 2)
    (heven : |q - n| = 1 / 2 → Even n) : IsNearest q n := by
  have hsum (m : ℤ) (hm : m ≠ n) : 1 ≤ |q - m| + |q - n| := by
    have hunit : (1 : ℤ) ≤ |m - n| := Int.one_le_abs (sub_ne_zero.mpr hm)
    have hcast : (1 : ℚ) ≤ |(m : ℚ) - n| := by exact_mod_cast hunit
    have htriangle := abs_sub_le (m : ℚ) q n
    rw [abs_sub_comm (m : ℚ) q] at htriangle
    exact hcast.trans htriangle
  constructor
  · intro m
    by_cases hm : m = n
    · rw [hm]
    · linarith [hsum m hm]
  · intro m hm heq
    apply heven
    linarith [hsum m hm]

/-- The rest of a division against half the divisor. -/
theorem cast_mod_div_compare (n : ℕ) {d : ℕ} (hd : 0 < d) :
    ((1 / 2 : ℚ) < (n % d : ℕ) / d ↔ d < 2 * (n % d)) ∧
      ((n % d : ℕ) / d = (1 / 2 : ℚ) ↔ 2 * (n % d) = d) := by
  have hpos : (0 : ℚ) < d := Nat.cast_pos.mpr hd
  constructor
  · rw [div_lt_div_iff₀ two_pos hpos, one_mul, mul_comm, ← Nat.cast_ofNat, ← Nat.cast_mul,
      Nat.cast_lt]
  · rw [div_eq_div_iff hpos.ne' two_ne_zero, one_mul, mul_comm, ← Nat.cast_ofNat, ← Nat.cast_mul,
      Nat.cast_inj]

/-- Rounding goes up from a rest above half the divisor, and from half of it if the quotient is
odd. -/
theorem isNearest_roundHalfEven (n : ℕ) {d : ℕ} (hd : 0 < d) :
    IsNearest ((n : ℚ) / d) (roundHalfEven n d) := by
  have hpos : (0 : ℚ) < d := Nat.cast_pos.mpr hd
  have hsplit : (n : ℚ) / d = (n / d : ℕ) + ((n % d : ℕ) : ℚ) / d := by
    have hdivMod : (n : ℚ) = d * (n / d : ℕ) + (n % d : ℕ) := by
      exact_mod_cast (Nat.div_add_mod n d).symm
    rw [div_eq_iff hpos.ne', add_mul, div_mul_cancel₀ _ hpos.ne', mul_comm _ (d : ℚ)]
    exact hdivMod
  obtain ⟨habove, hhalf⟩ := cast_mod_div_compare n hd
  have hrest : (0 : ℚ) ≤ (n % d : ℕ) / d := by positivity
  have hunit : ((n % d : ℕ) : ℚ) / d < 1 := by
    rw [div_lt_one hpos, Nat.cast_lt]
    exact Nat.mod_lt n hd
  unfold roundHalfEven
  split
  next hup =>
    have hdist : |(n : ℚ) / d - ((n / d + 1 : ℕ) : ℤ)| = 1 - (n % d : ℕ) / d := by
      rw [Int.cast_natCast, Nat.cast_add_one, hsplit, add_sub_add_left_eq_sub, abs_of_nonpos] <;>
        linarith
    have hge : (1 / 2 : ℚ) ≤ (n % d : ℕ) / d := by
      rcases hup with hup | ⟨hup, -⟩
      · exact (habove.mpr hup).le
      · exact (hhalf.mpr hup).ge
    refine isNearest_of_abs_le_half (by linarith) fun h => ?_
    have htie : 2 * (n % d) = d := hhalf.mp (by linarith)
    have hodd : n / d % 2 = 1 := by omega
    rw [Int.even_coe_nat, Nat.even_iff]
    omega
  next hdown =>
    rw [not_or, not_and] at hdown
    have hdist : |(n : ℚ) / d - ((n / d : ℕ) : ℤ)| = (n % d : ℕ) / d := by
      rw [Int.cast_natCast, hsplit, add_sub_cancel_left, abs_of_nonneg hrest]
    have hle : ((n % d : ℕ) : ℚ) / d ≤ 1 / 2 := not_lt.mp (mt habove.mp hdown.1)
    refine isNearest_of_abs_le_half (by linarith) fun h => ?_
    have htie : 2 * (n % d) = d := hhalf.mp (by linarith)
    have hodd := hdown.2 htie
    rw [Int.even_coe_nat, Nat.even_iff]
    omega

theorem roundHalfEven_one (n : ℕ) : roundHalfEven n 1 = n := by
  simp [roundHalfEven, Nat.mod_one]

theorem roundHalfEven_eq_zero_iff (n : ℕ) {d : ℕ} (hd : 0 < d) :
    roundHalfEven n d = 0 ↔ 2 * n ≤ d := by
  unfold roundHalfEven
  rcases Nat.lt_or_ge n d with hn | hn
  · rw [Nat.div_eq_of_lt hn, Nat.mod_eq_of_lt hn]
    split <;> omega
  · have hquotient : 0 < n / d := Nat.div_pos hn hd
    split <;> omega

namespace Binary64

/-- The number that a finite real denotes. -/
def value (x : Binary64) : ℚ :=
  (if x.negative then -1 else 1) *
    if x.exponentField = 0 then (x.fraction : ℚ) * 2 ^ (-1074 : ℤ)
    else (1 + (x.fraction : ℚ) / 2 ^ 52) * 2 ^ ((x.exponentField : ℤ) - 1023)

/-- A real is counted in units of its last place. -/
theorem value_eq (x : Binary64) :
    x.value = (if x.negative then -1 else 1) * (x.significand * (2 : ℚ) ^ x.exponent) := by
  unfold value significand exponent
  congr 1
  split_ifs with h
  · rw [h]
    rfl
  · have hmax : ((max x.exponentField 1 : ℕ) : ℤ) = x.exponentField := by omega
    have hunit : (2 : ℚ) ^ ((x.exponentField : ℤ) - 1023) =
        2 ^ 52 * 2 ^ ((x.exponentField : ℤ) - 1075) := by
      rw [← zpow_natCast, ← zpow_add₀ two_ne_zero]
      congr 1
      push_cast
      ring
    have hleading : ((power 2 52 + x.fraction : ℕ) : ℚ) = (1 + x.fraction / 2 ^ 52) * 2 ^ 52 := by
      rw [Nat.cast_add, add_mul, one_mul, div_mul_cancel₀ _ (by positivity)]
      norm_num
    rw [hunit, hmax, hleading, mul_assoc]

/-- The numerator of the magnitude. -/
def whole (x : Binary64) : ℕ := x.significand * power 2 x.exponent.toNat

/-- The denominator of the magnitude, a power of two. -/
def unit (x : Binary64) : ℕ := power 2 (-x.exponent).toNat

theorem unit_pos (x : Binary64) : 0 < x.unit := Nat.two_pow_pos _

theorem value_eq_div (x : Binary64) :
    x.value = (if x.negative then -1 else 1) * ((x.whole : ℚ) / x.unit) := by
  rw [value_eq]
  congr 1
  unfold whole unit
  rcases Int.le_total 0 x.exponent with he | he
  · have hunit : (-x.exponent).toNat = 0 := by omega
    obtain ⟨k, hk⟩ := Int.eq_ofNat_of_zero_le he
    rw [hunit, hk]
    simp [power]
  · have hwhole : x.exponent.toNat = 0 := by omega
    obtain ⟨k, hk⟩ := Int.eq_ofNat_of_zero_le (Int.neg_nonneg_of_nonpos he)
    have hexponent : x.exponent = -(k : ℤ) := by omega
    rw [hwhole, hk, hexponent]
    simp [power, div_eq_mul_inv]

/-- The significand has a bit in front of the fraction at the most. -/
theorem significand_lt (x : Binary64) : x.significand < power 2 53 := by
  have h52 : power 2 52 = 4503599627370496 := rfl
  have h53 : power 2 53 = 9007199254740992 := rfl
  have hfraction : x.fraction < power 2 52 := Nat.mod_lt _ (Nat.two_pow_pos 52)
  unfold significand
  split <;> omega

theorem isNaN_of_isFinite {x : Binary64} (hfinite : x.isFinite = true) : x.isNaN = false := by
  have hfield : x.exponentField ≠ 2047 := bne_iff_ne.mp hfinite
  simp [isNaN, hfield]

/-- A finite real is compared with zero by its sign and its significand. -/
theorem isNonpositive_iff {x : Binary64} (hfinite : x.isFinite = true) :
    x.isNonpositive = true ↔ x.value ≤ 0 := by
  have hunit : (0 : ℚ) < 2 ^ x.exponent := by positivity
  have hzero : x.isZero = true ↔ x.significand = 0 := by
    rw [isZero, hfinite, Bool.true_and, beq_iff_eq]
  rw [isNonpositive, isNaN_of_isFinite hfinite, Bool.not_false, Bool.true_and, Bool.or_eq_true,
    hzero, value_eq]
  cases x.negative with
  | true =>
    rw [if_pos rfl, neg_one_mul]
    exact iff_of_true (.inl rfl) (neg_nonpos.mpr (by positivity))
  | false =>
    rw [if_neg Bool.false_ne_true, one_mul, ← not_lt, mul_pos_iff_of_pos_right hunit, Nat.cast_pos,
      Nat.pos_iff_ne_zero, not_not]
    exact or_iff_right Bool.false_ne_true

theorem value_lt_iff {x : Binary64} (hnegative : x.negative = false) (b : ℕ) :
    x.value < b ↔ x.whole < b * x.unit := by
  rw [value_eq_div, hnegative, if_neg Bool.false_ne_true, one_mul,
    div_lt_iff₀ (Nat.cast_pos.mpr x.unit_pos), ← Nat.cast_mul, Nat.cast_lt]

/-- A negative real, zero among them, is not above zero. -/
theorem negative_of_pos {x : Binary64} (h : 0 < x.value) : x.negative = false := by
  rw [value_eq] at h
  cases hnegative : x.negative with
  | false => rfl
  | true =>
    rw [hnegative, if_pos rfl, neg_one_mul] at h
    exact absurd h (not_lt.mpr (neg_nonpos.mpr (by positivity)))

end Binary64

end SessionGateway
