/-! Magnitudes of double precision in exact arithmetic. A magnitude is a significand of at most
53 bits times a power of two; every operation computes the exact ratio first and rounds once. -/

namespace EventStore

/-- A power with a whole exponent; one where the exponent is negative. -/
def wholePower (base : Nat) (exponent : Int) : Nat := Nat.pow base exponent.toNat

/-- The magnitude `significand * 2 ^ exponent`. Values built by `nearest` are canonical: the
significand has 53 bits unless the exponent is the least one. -/
structure Binary64 where
  significand : Nat
  exponent : Int
  deriving DecidableEq, Repr, Inhabited

namespace Binary64

def leastExponent : Int := -1074

def greatestExponent : Int := 971

/-- The significands of 53 bits end here. -/
def significandLimit : Nat := 9007199254740992

/-- The significands of 53 bits start here. -/
def leastNormal : Nat := 4503599627370496

def zero : Binary64 := ⟨0, leastExponent⟩

def isZero (value : Binary64) : Bool := value.significand = 0

/-- The ratio `numerator / denominator / 2 ^ exponent`, kept in natural numbers. -/
def scaled (numerator denominator : Nat) (exponent : Int) : Nat × Nat :=
  (numerator * wholePower 2 (-exponent), denominator * wholePower 2 exponent)

/-- The nearest natural number to a ratio; a half goes to the even neighbour. -/
def roundedRatio (numerator denominator : Nat) : Nat :=
  let floor := numerator / denominator
  let doubled := 2 * (numerator % denominator)
  if doubled < denominator || (doubled = denominator && floor % 2 = 0) then floor else floor + 1

/-- The exponent that leaves 53 bits before the point. The binary logarithms bound the ratio
within a factor of two on each side, so one comparison settles it. -/
def fittingExponent (numerator denominator : Nat) : Int :=
  let guess := max ((numerator.log2 : Int) - denominator.log2 - 53) leastExponent
  let ratio := scaled numerator denominator guess
  if ratio.1 / ratio.2 < significandLimit then guess else guess + 1

/-- The magnitude nearest to a ratio, ties to even; nothing beyond the greatest one. -/
def nearest (numerator denominator : Nat) : Option Binary64 :=
  if numerator = 0 then some zero
  else
    let exponent := fittingExponent numerator denominator
    let ratio := scaled numerator denominator exponent
    let significand := roundedRatio ratio.1 ratio.2
    let value : Binary64 :=
      if significand = significandLimit then ⟨leastNormal, exponent + 1⟩
      else ⟨significand, exponent⟩
    if value.exponent ≤ greatestExponent then some value else none

/-- The exact value as numerator and denominator. -/
def ratio (value : Binary64) : Nat × Nat :=
  (value.significand * wholePower 2 value.exponent, wholePower 2 (-value.exponent))

def multipliedBy (left right : Binary64) : Option Binary64 :=
  nearest (left.ratio.1 * right.ratio.1) (left.ratio.2 * right.ratio.2)

def dividedBy (left right : Binary64) : Option Binary64 :=
  nearest (left.ratio.1 * right.ratio.2) (left.ratio.2 * right.ratio.1)

/-- The magnitude nearest to `digits * 10 ^ exponent`. Powers far outside the range are decided
by the number of digits alone, which keeps the arithmetic small. -/
def ofDecimal (digits : Nat) (exponent : Int) : Option Binary64 :=
  if digits = 0 then some zero
  else
    let magnitude : Int := digits.log2 / 4 + exponent
    if magnitude > 400 then none
    else if (digits.log2 : Int) / 3 + 1 + exponent < -400 then some zero
    else nearest (digits * wholePower 10 exponent) (wholePower 10 (-exponent))

/-- Rounded to a natural number, a half away from zero. -/
def roundHalfUp (value : Binary64) : Nat :=
  (2 * value.ratio.1 + value.ratio.2) / (2 * value.ratio.2)

end Binary64
end EventStore
