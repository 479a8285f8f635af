import EventStore.Json.Number
import EventStore.Proofs.RoundingBounds

/-! Scaling a word by a power of ten. Each of its roundings adds little, so only a result close to
the end of the range can fall beyond it, and no division does. -/

namespace EventStore.Json
open Binary64

theorem overflow_bounds :
    (10 : ℚ) ^ greatestPower < overflow ∧ overflow < 10 ^ (greatestPower + 1) := by
  let exponent := greatestExponent.toNat
  have counted : 10 ^ greatestPower * 2 + 2 ^ exponent < 2 ^ 54 * 2 ^ exponent ∧
      2 ^ 54 * 2 ^ exponent < 10 ^ (greatestPower + 1) * 2 + 2 ^ exponent := by
    decide +kernel
  have lower : (10 : ℚ) ^ greatestPower * 2 + 2 ^ exponent < 2 ^ 54 * 2 ^ exponent := by
    exact_mod_cast counted.1
  have upper : 2 ^ 54 * 2 ^ exponent < (10 : ℚ) ^ (greatestPower + 1) * 2 + 2 ^ exponent := by
    exact_mod_cast counted.2
  have unit : (2 : ℚ) ^ greatestExponent = 2 ^ exponent := by
    rw [← zpow_natCast, Int.toNat_of_nonneg (by decide)]
  rw [overflow, unit]
  constructor
  · linarith
  · linarith

/-- Powers of ten within the range are off by their own rounding. -/
theorem powerOfTen_close {power : Nat} (within : power ≤ greatestPower) :
    |(powerOfTen power).toRat - 10 ^ power| ≤ 10 ^ power / 2 ^ 53 := by
  have whole : ((wholePower 10 power : Nat) : ℚ) / (1 : Nat) = 10 ^ power := by simp [wholePower]
  have one : (1 : ℚ) ≤ 10 ^ power := one_le_pow₀ (by norm_num)
  have below : (10 : ℚ) ^ power < overflow :=
    (pow_le_pow_right₀ (by norm_num) within).trans_lt overflow_bounds.1
  obtain ⟨value, found, error⟩ := nearest_of_lt Nat.one_pos (whole ▸ below)
  rw [whole, max_eq_left one] at error
  rwa [powerOfTen, found, Option.getD_some]

theorem two_le_powerOfTen {power : Nat} (some : power ≠ 0) (within : power ≤ greatestPower) :
    2 ≤ (powerOfTen power).toRat := by
  have ten : (10 : ℚ) ≤ 10 ^ power := le_self_pow₀ (by norm_num) some
  have lower := (abs_le.mp (powerOfTen_close within)).1
  linarith

section Dividing

variable {value : Binary64} (small : value.toRat ≤ 2 ^ 65)
include small

/-- The quotient is at least a bit shorter, which is more than its rounding adds. -/
theorem dividedBy_small {divisor : Binary64} (two : 2 ≤ divisor.toRat) :
    ∃ result, value.dividedBy divisor = some result ∧ result.toRat ≤ 2 ^ 65 := by
  have positive : 0 < divisor.toRat := by linarith
  have quotient : value.toRat / divisor.toRat ≤ 2 ^ 64 := by
    rw [div_le_iff₀ positive]
    linarith
  have below : value.toRat / divisor.toRat < overflow := quotient.trans_lt two_pow_lt_overflow
  obtain ⟨result, found, error⟩ := dividedBy_of_lt positive below
  have most : max (value.toRat / divisor.toRat) 1 ≤ 2 ^ 64 := max_le quotient (by norm_num)
  have upper := (abs_le.mp error).2
  refine ⟨result, found, ?_⟩
  linarith

theorem steppedDown_small (steps : Nat) :
    ∃ result, steppedDown steps value = some result ∧ result.toRat ≤ 2 ^ 65 := by
  induction steps generalizing value with
  | zero => exact ⟨value, rfl, small⟩
  | succ steps ih =>
    rw [steppedDown]
    split
    · exact ⟨value, rfl, small⟩
    · obtain ⟨quotient, divided, smaller⟩ :=
        dividedBy_small small (two_le_powerOfTen (by decide) (Nat.le_refl greatestPower))
      obtain ⟨result, stepped, bound⟩ := ih smaller
      exact ⟨result, by rw [divided, Option.bind_some, stepped], bound⟩

theorem scaledByTen_of_neg {power : Int} (negative : power < 0) :
    ∃ result, scaledByTen value power = some result := by
  obtain ⟨stepped, steps, smaller⟩ := steppedDown_small small ((power.natAbs - 1) / greatestPower)
  have last : power.natAbs - (power.natAbs - 1) / greatestPower * greatestPower ≠ 0 ∧
      power.natAbs - (power.natAbs - 1) / greatestPower * greatestPower ≤ greatestPower := by
    rw [greatestPower]
    omega
  obtain ⟨result, divided, _⟩ := dividedBy_small smaller (two_le_powerOfTen last.1 last.2)
  refine ⟨result, ?_⟩
  rw [scaledByTen]
  dsimp only
  rw [if_neg (by omega), steps, Option.bind_some, divided]

end Dividing

/-- Up to here scaling stays below the midpoint above the greatest magnitude, whatever its two
roundings add. -/
def readable : ℚ := (2 ^ 53 - 5 / 2) * 2 ^ greatestExponent

theorem ten_pow_le_readable : (10 : ℚ) ^ 16 ≤ readable := by
  have unit : (2 : ℚ) ^ (12 : Int) ≤ 2 ^ greatestExponent :=
    zpow_le_zpow_right₀ one_le_two (by decide)
  rw [readable]
  norm_num at unit ⊢
  linarith

theorem readable_mul_lt_overflow : readable * (1 + 1 / 2 ^ 53) ^ 2 < overflow := by
  have unit : (0 : ℚ) < 2 ^ greatestExponent := by positivity
  rw [readable, overflow]
  linarith

section Multiplying

variable {word power : Nat}

theorem scaledByTen_zero : ∃ result, scaledByTen zero (power : Int) = some result := by
  rw [scaledByTen]
  dsimp only
  rw [if_pos (by omega)]
  split
  · apply multipliedBy_of_lt
    rw [toRat_zero, zero_mul]
    exact (by positivity : (0 : ℚ) < 2 ^ 64).trans two_pow_lt_overflow
  · exact ⟨zero, rfl⟩

theorem power_le_of_readable (some : word ≠ 0) (below : (word : ℚ) * 10 ^ power ≤ readable) :
    power ≤ greatestPower := by
  by_contra greater
  have one : (1 : ℚ) ≤ word := by exact_mod_cast Nat.one_le_iff_ne_zero.mpr some
  have large : (10 : ℚ) ^ (greatestPower + 1) ≤ 10 ^ power :=
    pow_le_pow_right₀ (by norm_num) (Nat.lt_of_not_le greater)
  have unit : (0 : ℚ) < 2 ^ greatestExponent := by positivity
  have beyond := overflow_bounds.2
  rw [overflow] at beyond
  rw [readable] at below
  have product : (10 : ℚ) ^ power ≤ word * 10 ^ power := le_mul_of_one_le_left (by positivity) one
  linarith

theorem scaledByTen_of_readable {leading : Binary64} (some : word ≠ 0)
    (below : (word : ℚ) * 10 ^ power ≤ readable)
    (close : |leading.toRat - word| ≤ word / 2 ^ 53) :
    ∃ result, scaledByTen leading (power : Int) = .some result := by
  have within := power_le_of_readable some below
  rw [scaledByTen]
  dsimp only
  rw [if_pos (by omega), Int.natAbs_natCast, if_pos within]
  apply multipliedBy_of_lt
  have left : leading.toRat ≤ word * (1 + 1 / 2 ^ 53) := by linarith [(abs_le.mp close).2]
  have right : (powerOfTen power).toRat ≤ 10 ^ power * (1 + 1 / 2 ^ 53) := by
    linarith [(abs_le.mp (powerOfTen_close within)).2]
  calc leading.toRat * (powerOfTen power).toRat
    _ ≤ word * (1 + 1 / 2 ^ 53) * (10 ^ power * (1 + 1 / 2 ^ 53)) :=
      mul_le_mul left right (toRat_nonneg _) (by positivity)
    _ = word * 10 ^ power * (1 + 1 / 2 ^ 53) ^ 2 := by ring
    _ ≤ readable * (1 + 1 / 2 ^ 53) ^ 2 := mul_le_mul_of_nonneg_right below (by positivity)
    _ < overflow := readable_mul_lt_overflow

end Multiplying

theorem scaled_nearest {word : Nat} {power : Int} (fits : word < wordLimit)
    (below : (word : ℚ) * 10 ^ power ≤ readable) :
    ∃ leading magnitude, nearest word 1 = some leading ∧
      scaledByTen leading power = some magnitude := by
  have size : (word : ℚ) < 2 ^ 64 := by
    have limit : ((wordLimit : Nat) : ℚ) = 2 ^ 64 := by norm_num [wordLimit]
    rw [← limit]
    exact_mod_cast fits
  have whole : (word : ℚ) / (1 : Nat) = word := by simp
  have inside : (word : ℚ) < overflow := size.trans two_pow_lt_overflow
  obtain ⟨leading, found, error⟩ := nearest_of_lt Nat.one_pos (whole.symm ▸ inside)
  rw [whole] at error
  refine ⟨leading, ?_⟩
  rcases Int.lt_or_le power 0 with negative | positive
  · have most : max (word : ℚ) 1 ≤ 2 ^ 64 := max_le size.le (by norm_num)
    have small : leading.toRat ≤ 2 ^ 65 := by linarith [(abs_le.mp error).2]
    obtain ⟨magnitude, scaled⟩ := scaledByTen_of_neg small negative
    exact ⟨magnitude, found, scaled⟩
  · obtain ⟨power, rfl⟩ := Int.eq_ofNat_of_zero_le positive
    rw [zpow_natCast] at below
    by_cases none : word = 0
    · have zero : leading = Binary64.zero := by
        rw [none, nearest, if_pos rfl] at found
        exact (Option.some.inj found).symm
      obtain ⟨magnitude, scaled⟩ := @scaledByTen_zero power
      exact ⟨magnitude, found, zero ▸ scaled⟩
    · have one : (1 : ℚ) ≤ word := by exact_mod_cast Nat.one_le_iff_ne_zero.mpr none
      rw [max_eq_left one] at error
      obtain ⟨magnitude, scaled⟩ := scaledByTen_of_readable none below error
      exact ⟨magnitude, found, scaled⟩

end EventStore.Json
