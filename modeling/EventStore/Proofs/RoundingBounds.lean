import EventStore.Decimal.Binary64
import Mathlib.Algebra.Order.Field.Power
import Mathlib.Tactic.FieldSimp
import Mathlib.Tactic.Linarith
import Mathlib.Tactic.Positivity
import Mathlib.Tactic.Ring

/-! How far rounding goes. The nearest magnitude is off by one part in `2 ^ 53` at most, and there
is one for every ratio below the midpoint above the greatest magnitude. -/

namespace EventStore

theorem wholePower_pos {base : Nat} (positive : 0 < base) (exponent : Int) :
    0 < wholePower base exponent := Nat.pow_pos positive

theorem wholePower_div (base : Nat) (exponent : Int) :
    (wholePower base exponent : ℚ) / wholePower base (-exponent) = (base : ℚ) ^ exponent := by
  simp only [wholePower, Nat.pow_eq, Nat.cast_pow]
  rcases Int.le_total 0 exponent with positive | negative
  · have none : (-exponent).toNat = 0 := by omega
    rw [none, pow_zero, div_one, ← zpow_natCast, Int.toNat_of_nonneg positive]
  · have none : exponent.toNat = 0 := by omega
    rw [none, pow_zero, one_div, ← zpow_natCast, Int.toNat_of_nonneg (by omega), zpow_neg, inv_inv]

namespace Binary64

def toRat (value : Binary64) : ℚ := value.significand * 2 ^ value.exponent

theorem toRat_nonneg (value : Binary64) : 0 ≤ value.toRat := by
  unfold toRat
  positivity

theorem toRat_zero : zero.toRat = 0 := by simp [toRat, zero]

theorem ratio_pos (value : Binary64) : 0 < value.ratio.2 := wholePower_pos (by decide) _

theorem ratio_eq_toRat (value : Binary64) :
    (value.ratio.1 : ℚ) / value.ratio.2 = value.toRat := by
  rw [ratio, toRat]
  dsimp only
  rw [Nat.cast_mul, mul_div_assoc, wholePower_div, Nat.cast_ofNat]

variable {numerator denominator : Nat}

theorem scaled_pos (positive : 0 < denominator) (exponent : Int) :
    0 < (scaled numerator denominator exponent).2 :=
  Nat.mul_pos positive (wholePower_pos (by decide) _)

theorem scaled_eq (numerator denominator : Nat) (exponent : Int) :
    ((scaled numerator denominator exponent).1 : ℚ) / (scaled numerator denominator exponent).2 =
      numerator / denominator / 2 ^ exponent := by
  have power := wholePower_div 2 (-exponent)
  rw [neg_neg, zpow_neg, Nat.cast_ofNat] at power
  rw [scaled, Nat.cast_mul, Nat.cast_mul, mul_div_mul_comm, power, div_eq_mul_inv (_ / _ : ℚ)]

theorem roundedRatio_error (positive : 0 < denominator) :
    |(roundedRatio numerator denominator : ℚ) - numerator / denominator| ≤ 1 / 2 := by
  have whole := Nat.div_add_mod numerator denominator
  have part := Nat.mod_lt numerator positive
  have near : 2 * (denominator * roundedRatio numerator denominator) ≤ 2 * numerator + denominator ∧
      2 * numerator ≤ 2 * (denominator * roundedRatio numerator denominator) + denominator := by
    unfold roundedRatio
    dsimp only
    split
    next down =>
      simp only [Bool.or_eq_true, decide_eq_true_eq, Bool.and_eq_true] at down
      omega
    next up =>
      simp only [Bool.or_eq_true, decide_eq_true_eq, Bool.and_eq_true] at up
      rw [Nat.mul_add]
      omega
  have size : (0 : ℚ) < denominator := by exact_mod_cast positive
  have upper : 2 * ((denominator : ℚ) * roundedRatio numerator denominator) ≤
      2 * numerator + denominator := by exact_mod_cast near.1
  have lower : 2 * (numerator : ℚ) ≤
      2 * (denominator * roundedRatio numerator denominator) + denominator := by
    exact_mod_cast near.2
  rw [abs_le]
  constructor
  · rw [le_sub_iff_add_le, neg_add_eq_sub, sub_le_iff_le_add, div_le_iff₀ size]
    linarith
  · rw [sub_le_iff_le_add, add_comm, ← sub_le_iff_le_add, le_div_iff₀ size]
    linarith

theorem leastExponent_le (numerator denominator : Nat) :
    leastExponent ≤ fittingExponent numerator denominator := by
  unfold fittingExponent
  dsimp only
  split
  · exact le_max_right _ _
  · have := le_max_right ((numerator.log2 : Int) - denominator.log2 - 53) leastExponent
    omega

/-- The binary logarithms are the exponents of a power below the ratio. -/
theorem log2_lt_ratio (some : numerator ≠ 0) (positive : 0 < denominator) :
    (2 : ℚ) ^ ((numerator.log2 : Int) - denominator.log2 - 1) < numerator / denominator := by
  have size : (0 : ℚ) < denominator := by exact_mod_cast positive
  have below : (2 : ℚ) ^ numerator.log2 ≤ numerator := by exact_mod_cast Nat.log2_self_le some
  have above : (denominator : ℚ) < 2 ^ (denominator.log2 + 1) := by
    exact_mod_cast Nat.lt_log2_self
  have split : (2 : ℚ) ^ ((numerator.log2 : Int) - denominator.log2 - 1) =
      2 ^ numerator.log2 / 2 ^ (denominator.log2 + 1) := by
    rw [sub_sub, zpow_sub₀ two_ne_zero]
    norm_cast
  rw [split]
  exact div_lt_div₀' below above (by positivity) size

/-- An exponent above the least one leaves 53 bits before the point. -/
theorem leastNormal_le (some : numerator ≠ 0) (positive : 0 < denominator)
    (above : leastExponent < fittingExponent numerator denominator) :
    2 ^ 52 * (2 : ℚ) ^ fittingExponent numerator denominator ≤ numerator / denominator := by
  let guess := max ((numerator.log2 : Int) - denominator.log2 - 53) leastExponent
  let ratio := scaled numerator denominator guess
  have unfolded : fittingExponent numerator denominator =
      if ratio.1 / ratio.2 < significandLimit then guess else guess + 1 := rfl
  have joined (exponent : Int) : 2 ^ 52 * (2 : ℚ) ^ exponent = 2 ^ (exponent + 52) := by
    rw [zpow_add₀ two_ne_zero, mul_comm]
    norm_cast
  by_cases fits : ratio.1 / ratio.2 < significandLimit
  · rw [if_pos fits] at unfolded
    rw [unfolded] at above ⊢
    have guessed : guess + 52 = (numerator.log2 : Int) - denominator.log2 - 1 := by omega
    rw [joined, guessed]
    exact (log2_lt_ratio some positive).le
  · rw [if_neg fits] at unfolded
    have size : 0 < ratio.2 := scaled_pos positive guess
    have large : (significandLimit : ℚ) ≤ numerator / denominator / 2 ^ guess := by
      rw [← scaled_eq, le_div_iff₀ (by exact_mod_cast size)]
      exact_mod_cast (Nat.le_div_iff_mul_le size).mp (Nat.le_of_not_lt fits)
    rw [unfolded, zpow_add_one₀ two_ne_zero]
    rw [le_div_iff₀ (by positivity)] at large
    refine le_trans (le_of_eq ?_) large
    norm_num [significandLimit]
    ring

/-- Rounding keeps the fitting exponent, or carries into the next one. -/
theorem nearest_cases (some : numerator ≠ 0) (positive : 0 < denominator) :
    let exponent := fittingExponent numerator denominator
    ∃ value : Binary64,
      (value.exponent = exponent ∨
        value.exponent = exponent + 1 ∧ value.toRat = 2 ^ 53 * 2 ^ exponent) ∧
      |value.toRat - numerator / denominator| ≤ 2 ^ exponent / 2 ∧
      nearest numerator denominator =
        if value.exponent ≤ greatestExponent then .some value else none := by
  intro exponent
  let ratio := scaled numerator denominator exponent
  let significand := roundedRatio ratio.1 ratio.2
  -- Rounding up to the limit carries into the exponent, which leaves the number the same.
  let value : Binary64 :=
    if significand = significandLimit then ⟨leastNormal, exponent + 1⟩ else ⟨significand, exponent⟩
  have carries : (value.exponent = exponent ∨
        value.exponent = exponent + 1 ∧ value.toRat = 2 ^ 53 * 2 ^ exponent) ∧
      value.toRat = significand * 2 ^ exponent := by
    unfold value
    split
    next full =>
      have carried : (⟨leastNormal, exponent + 1⟩ : Binary64).toRat = 2 ^ 53 * 2 ^ exponent := by
        rw [toRat, zpow_add_one₀ two_ne_zero]
        norm_num [leastNormal]
        ring
      refine ⟨.inr ⟨rfl, carried⟩, carried.trans ?_⟩
      rw [full]
      norm_num [significandLimit]
    next => exact ⟨.inl rfl, rfl⟩
  have error : |(significand : ℚ) - numerator / denominator / 2 ^ exponent| ≤ 1 / 2 := by
    rw [← scaled_eq]
    exact roundedRatio_error (scaled_pos positive exponent)
  refine ⟨value, carries.1, ?_, by rw [nearest, if_neg some]⟩
  have unit : (0 : ℚ) < 2 ^ exponent := by positivity
  have apart : value.toRat - numerator / denominator =
      (significand - numerator / denominator / 2 ^ exponent) * 2 ^ exponent := by
    rw [carries.2, sub_mul, div_mul_cancel₀ _ unit.ne']
  rw [apart, abs_mul, abs_of_pos unit]
  calc _ ≤ 1 / 2 * (2 : ℚ) ^ exponent := mul_le_mul_of_nonneg_right error unit.le
    _ = 2 ^ exponent / 2 := by ring

def overflow : ℚ := (2 ^ 53 - 1 / 2) * 2 ^ greatestExponent

theorem two_pow_lt_overflow : (2 : ℚ) ^ 64 < overflow := by
  have unit : (2 : ℚ) ^ (12 : Int) ≤ 2 ^ greatestExponent :=
    zpow_le_zpow_right₀ one_le_two (by decide)
  rw [overflow]
  norm_num at unit ⊢
  linarith

theorem exponent_le_greatest {value : Binary64} (some : numerator ≠ 0) (positive : 0 < denominator)
    (below : (numerator : ℚ) / denominator < overflow)
    (carries : value.exponent = fittingExponent numerator denominator ∨
      value.exponent = fittingExponent numerator denominator + 1 ∧
        value.toRat = 2 ^ 53 * 2 ^ fittingExponent numerator denominator)
    (error : |value.toRat - numerator / denominator| ≤
      2 ^ fittingExponent numerator denominator / 2) :
    value.exponent ≤ greatestExponent := by
  by_contra greater
  generalize fitting : fittingExponent numerator denominator = exponent at carries error
  have least : leastExponent < greatestExponent := by decide
  have powers (fits : greatestExponent ≤ exponent) :
      (2 : ℚ) ^ greatestExponent ≤ 2 ^ exponent := zpow_le_zpow_right₀ one_le_two fits
  have unit : (0 : ℚ) < 2 ^ greatestExponent := by positivity
  rw [overflow] at below
  rcases carries with same | ⟨next, full⟩
  · have normal := leastNormal_le some positive (by omega)
    have doubled : (2 : ℚ) ^ (greatestExponent + 1) ≤ 2 ^ exponent :=
      zpow_le_zpow_right₀ one_le_two (by omega)
    rw [fitting] at normal
    rw [zpow_add_one₀ two_ne_zero] at doubled
    linarith
  · have larger := powers (by omega)
    rw [full] at error
    have close := (abs_le.mp error).2
    linarith

/-- Every ratio below the midpoint has a nearest magnitude, one part in `2 ^ 53` away at most. -/
theorem nearest_of_lt (positive : 0 < denominator)
    (below : (numerator : ℚ) / denominator < overflow) :
    ∃ value, nearest numerator denominator = some value ∧
      |value.toRat - numerator / denominator| ≤ max ((numerator : ℚ) / denominator) 1 / 2 ^ 53 := by
  by_cases none : numerator = 0
  · refine ⟨zero, by rw [nearest, if_pos none], ?_⟩
    simp [none, toRat_zero]
  · obtain ⟨value, carries, error, found⟩ := nearest_cases none positive
    refine ⟨value, by rw [found, if_pos (exponent_le_greatest none positive below carries error)], ?_⟩
    rw [le_div_iff₀ (by positivity)]
    have scaled : |value.toRat - numerator / denominator| * 2 ^ 53 ≤
        2 ^ 52 * 2 ^ fittingExponent numerator denominator := by linarith
    refine scaled.trans ?_
    rcases (leastExponent_le numerator denominator).eq_or_lt with least | above
    · have tiny : (2 : ℚ) ^ leastExponent ≤ 2 ^ (-52 : Int) :=
        zpow_le_zpow_right₀ one_le_two (by decide)
      refine le_trans ?_ (le_max_right _ _)
      rw [← least]
      calc _ ≤ 2 ^ 52 * (2 : ℚ) ^ (-52 : Int) := mul_le_mul_of_nonneg_left tiny (by positivity)
        _ = 1 := by norm_num
    · exact (leastNormal_le none positive above).trans (le_max_left _ _)

theorem multipliedBy_of_lt {left right : Binary64} (below : left.toRat * right.toRat < overflow) :
    ∃ value, left.multipliedBy right = some value := by
  have product : ((left.ratio.1 * right.ratio.1 : Nat) : ℚ) / (left.ratio.2 * right.ratio.2 : Nat) =
      left.toRat * right.toRat := by
    rw [Nat.cast_mul, Nat.cast_mul, mul_div_mul_comm, ratio_eq_toRat, ratio_eq_toRat]
  obtain ⟨value, found, _⟩ :=
    nearest_of_lt (Nat.mul_pos left.ratio_pos right.ratio_pos) (product ▸ below)
  exact ⟨value, found⟩

theorem dividedBy_of_lt {left right : Binary64} (positive : 0 < right.toRat)
    (below : left.toRat / right.toRat < overflow) :
    ∃ value, left.dividedBy right = some value ∧
      |value.toRat - left.toRat / right.toRat| ≤ max (left.toRat / right.toRat) 1 / 2 ^ 53 := by
  have some : 0 < right.ratio.1 := by
    have size : (0 : ℚ) < right.ratio.2 := by exact_mod_cast right.ratio_pos
    rw [← ratio_eq_toRat, lt_div_iff₀ size, zero_mul] at positive
    exact_mod_cast positive
  have quotient : ((left.ratio.1 * right.ratio.2 : Nat) : ℚ) / (left.ratio.2 * right.ratio.1 : Nat) =
      left.toRat / right.toRat := by
    rw [Nat.cast_mul, Nat.cast_mul, ← ratio_eq_toRat, ← ratio_eq_toRat, div_div_div_eq]
  have found := nearest_of_lt (Nat.mul_pos left.ratio_pos some) (quotient ▸ below)
  rwa [quotient] at found

end Binary64
end EventStore
