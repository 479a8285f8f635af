import EventStore.Decimal.Binary64

/-! The shortest decimal that rounds to a given magnitude. Every decimal strictly between the
midpoints to the two neighbours rounds back, and so does a midpoint itself when the significand
is even. On each grid of one, two, three, ... digits only the two neighbours of the value have
to be tested, because an interval around the value that holds a grid point holds one of them. -/

namespace EventStore

/-- The number `digits * 10 ^ exponent`. -/
structure Decimal where
  digits : Nat
  exponent : Int
  deriving DecidableEq, Repr, Inhabited

namespace Decimal

/-- The reals that round to a magnitude, in quarters of its unit in the last place. -/
structure Interval where
  low : Nat
  value : Nat
  high : Nat
  closed : Bool

/-- Below a power of two the neighbour is nearer, so the lower midpoint is too. -/
def Interval.of (value : Binary64) : Interval where
  low :=
    if value.significand = Binary64.leastNormal ∧ value.exponent ≠ Binary64.leastExponent then
      4 * value.significand - 1
    else 4 * value.significand - 2
  value := 4 * value.significand
  high := 4 * value.significand + 2
  closed := value.significand % 2 = 0

/-- The power of ten of the leading digit of a positive ratio. The logarithms leave four
candidates; the first power that the ratio does not exceed tenfold is the right one. -/
def leadingExponent (numerator denominator : Nat) : Int :=
  let guess := ((numerator.log2 : Int) - denominator.log2 - 1) * 30103 / 100000 - 1
  let below (power : Int) : Bool :=
    numerator * wholePower 10 (-power) < denominator * wholePower 10 power
  if below (guess + 1) then guess
  else if below (guess + 2) then guess + 1
  else if below (guess + 3) then guess + 2
  else guess + 3

/-- The grid point with the given number of digits that reads back and lies nearest. -/
def onGrid (interval : Interval) (exponent : Int) (step : Int) : Option Nat :=
  -- One quarter unit is `2 ^ exponent`, one grid step `10 ^ step`.
  let unit := wholePower 2 exponent * wholePower 10 (-step)
  let grid := wholePower 2 (-exponent) * wholePower 10 step
  let inside (point : Nat) : Bool :=
    if interval.closed then
      interval.low * unit ≤ point * grid && point * grid ≤ interval.high * unit
    else interval.low * unit < point * grid && point * grid < interval.high * unit
  let floor := interval.value * unit / grid
  let remainder := 2 * (interval.value * unit % grid)
  match inside floor && floor ≠ 0, inside (floor + 1) with
  | true, true =>
    if remainder < grid || (remainder = grid && floor % 2 = 0) then some floor else some (floor + 1)
  | true, false => some floor
  | false, true => some (floor + 1)
  | false, false => none

/-- Drops final zeros; the fuel is the number of digits that may go. -/
def trimmed : Nat → Decimal → Decimal
  | 0, decimal => decimal
  | fuel + 1, decimal =>
    if decimal.digits ≠ 0 ∧ decimal.digits % 10 = 0 then
      trimmed fuel ⟨decimal.digits / 10, decimal.exponent + 1⟩
    else decimal

/-- Seventeen digits always suffice, so the search over the grids ends with a hit. -/
def shortest (value : Binary64) : Decimal :=
  if value.isZero then ⟨0, 0⟩
  else
    let exponent := value.exponent - 2
    let interval := Interval.of value
    let leading := leadingExponent value.ratio.1 value.ratio.2
    let hit := (List.range 17).findSome? fun (extra : Nat) =>
      let step := leading - (extra : Int)
      (onGrid interval exponent step).map fun digits => Decimal.mk digits step
    trimmed 17 (hit.getD ⟨0, 0⟩)

end Decimal
end EventStore
