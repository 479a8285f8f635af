import EventStore.Decimal.Digits
import EventStore.Decimal.Shortest

/-! How the digits of a decimal are set out as text. A layout says which magnitudes are written
positionally and whether an integer keeps a fraction; all else follows. -/

namespace EventStore

structure Layout where
  /-- The powers of ten of the leading digit that are written without an exponent. -/
  positional : Int → Bool
  /-- Whether an integer is written with a final `.0`. -/
  keepsFraction : Bool

namespace Layout

def zeros (count : Nat) : List Char := List.replicate count '0'

def fraction (layout : Layout) (digits : List Char) : List Char :=
  if digits.isEmpty then if layout.keepsFraction then ['.', '0'] else []
  else '.' :: digits

def positionalText (layout : Layout) (digits : List Char) (leading : Int) : List Char :=
  if leading < 0 then '0' :: '.' :: zeros (-leading - 1).toNat ++ digits
  else
    let whole := digits.take (leading.toNat + 1)
    whole ++ zeros (leading.toNat + 1 - whole.length) ++
      layout.fraction (digits.drop (leading.toNat + 1))

/-- One digit, the others after a point, and the exponent with its sign. -/
def exponentText (digits : List Char) (leading : Int) : List Char :=
  let mantissa :=
    match digits with
    | [] => []
    | [digit] => [digit]
    | digit :: others => digit :: '.' :: others
  mantissa ++ 'e' :: (if leading < 0 then '-' else '+') :: decimalDigits leading.natAbs

def render (layout : Layout) (decimal : Decimal) : List Char :=
  let digits := decimalDigits decimal.digits
  let leading := decimal.exponent + digits.length - 1
  if layout.positional leading then layout.positionalText digits leading
  else exponentText digits leading

end Layout
end EventStore
