import EventStore.Decimal.Shortest
import EventStore.Proofs.RoundingBounds

/-! The shortest decimal of a magnitude is not above the midpoint to the next magnitude, and zero
is written as the digit zero alone. -/

namespace EventStore.Decimal

/-- The number a decimal stands for. -/
def toRat (decimal : Decimal) : ℚ := decimal.digits * 10 ^ decimal.exponent

theorem toRat_eq_zero_iff {decimal : Decimal} : decimal.toRat = 0 ↔ decimal.digits = 0 := by
  rw [toRat, mul_eq_zero]
  constructor
  · rintro (none | power)
    · exact_mod_cast none
    · exact absurd power (zpow_ne_zero _ (by norm_num))
  · intro none
    exact .inl (by exact_mod_cast none)

/-- A grid point that reads back is within the interval, and it is never zero. -/
theorem onGrid_le {interval : Interval} {exponent step : Int} {point : Nat}
    (found : onGrid interval exponent step = some point) :
    point ≠ 0 ∧ (point : ℚ) * 10 ^ step ≤ interval.high * 2 ^ exponent := by
  let unit := wholePower 2 exponent * wholePower 10 (-step)
  let grid := wholePower 2 (-exponent) * wholePower 10 step
  let inside (point : Nat) : Bool :=
    if interval.closed then
      interval.low * unit ≤ point * grid && point * grid ≤ interval.high * unit
    else interval.low * unit < point * grid && point * grid < interval.high * unit
  have held : inside point = true ∧ point ≠ 0 := by
    unfold onGrid at found
    dsimp only at found
    split at found
    next below above =>
      have lower := Bool.and_eq_true_iff.mp below
      split at found
      · cases found
        exact ⟨lower.1, of_decide_eq_true lower.2⟩
      · cases found
        exact ⟨above, Nat.succ_ne_zero _⟩
    next below _ =>
      have lower := Bool.and_eq_true_iff.mp below
      cases found
      exact ⟨lower.1, of_decide_eq_true lower.2⟩
    next above =>
      cases found
      exact ⟨above, Nat.succ_ne_zero _⟩
    next => cases found
  have within : point * grid ≤ interval.high * unit := by
    have bounds := held.1
    simp only [inside] at bounds
    split at bounds
    · exact of_decide_eq_true (Bool.and_eq_true_iff.mp bounds).2
    · exact Nat.le_of_lt (of_decide_eq_true (Bool.and_eq_true_iff.mp bounds).2)
  refine ⟨held.2, ?_⟩
  -- The comparison is in whole numbers, with the denominators of both powers brought across.
  have two : (0 : ℚ) < wholePower 2 (-exponent) := by exact_mod_cast wholePower_pos (by decide) _
  have ten : (0 : ℚ) < wholePower 10 (-step) := by exact_mod_cast wholePower_pos (by decide) _
  have binary := wholePower_div 2 exponent
  have decimal := wholePower_div 10 step
  push_cast at binary decimal
  have cast : (point : ℚ) * (wholePower 2 (-exponent) * wholePower 10 step) ≤
      interval.high * (wholePower 2 exponent * wholePower 10 (-step)) := by exact_mod_cast within
  rw [← binary, ← decimal, mul_div_assoc', mul_div_assoc', div_le_div_iff₀ ten two]
  linarith

theorem toRat_trimmed (fuel : Nat) (decimal : Decimal) :
    (trimmed fuel decimal).toRat = decimal.toRat := by
  induction fuel generalizing decimal with
  | zero => rfl
  | succ fuel ih =>
    rw [trimmed]
    split
    next zeros =>
      have digits : decimal.digits = decimal.digits / 10 * 10 := by omega
      have cast : (decimal.digits : ℚ) = (decimal.digits / 10 : Nat) * 10 := by exact_mod_cast digits
      rw [ih, toRat, toRat, cast, zpow_add_one₀ (by norm_num)]
      ring
    next => rfl

theorem shortest_cases (value : Binary64) :
    shortest value = ⟨0, 0⟩ ∨
      ∃ step point, onGrid (Interval.of value) (value.exponent - 2) step = some point ∧
        shortest value = trimmed 17 ⟨point, step⟩ := by
  unfold shortest
  split
  · exact .inl rfl
  · dsimp only
    cases hit : (List.range 17).findSome? _ with
    | none => exact .inl rfl
    | some decimal =>
      obtain ⟨extra, _, found⟩ := List.exists_of_findSome?_eq_some hit
      obtain ⟨point, grid, rfl⟩ := Option.map_eq_some_iff.mp found
      exact .inr ⟨_, point, grid, rfl⟩

theorem exponent_shortest {value : Binary64} (none : (shortest value).digits = 0) :
    (shortest value).exponent = 0 := by
  rcases shortest_cases value with zero | ⟨step, point, grid, hit⟩
  · rw [zero]
  · rw [← toRat_eq_zero_iff, hit, toRat_trimmed, toRat_eq_zero_iff] at none
    exact absurd none (onGrid_le grid).1

theorem toRat_shortest_le (value : Binary64) :
    (shortest value).toRat ≤ (value.significand + 1 / 2) * 2 ^ value.exponent := by
  rcases shortest_cases value with zero | ⟨step, point, grid, hit⟩
  · rw [zero, toRat_eq_zero_iff.mpr rfl]
    positivity
  · rw [hit, toRat_trimmed]
    refine (onGrid_le grid).2.trans_eq ?_
    rw [Interval.of, zpow_sub₀ two_ne_zero]
    push_cast
    ring

end EventStore.Decimal
