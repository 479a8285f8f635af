import EventStore.Decimal.Layout

/-! Double precision as settings hold it, with the infinities and the value that is no number. A
finite text is rounded to the nearest value once, and written back positionally. -/

namespace EventStore

inductive Real
  | finite (negative : Bool) (magnitude : Binary64)
  | infinite (negative : Bool)
  | notANumber
  deriving DecidableEq, Repr, Inhabited

namespace Real

/-- All digits in place, and no fraction where there is none. -/
def layout : Layout where
  positional _ := true
  keepsFraction := false

def withSign (negative : Bool) (text : List Char) : List Char :=
  if negative then '-' :: text else text

def write : Real → List Char
  | .finite negative magnitude => withSign negative (layout.render (Decimal.shortest magnitude))
  | .infinite negative => withSign negative "inf".toList
  | .notANumber => "NaN".toList

def takeSign : List Char → Bool × List Char
  | '-' :: rest => (true, rest)
  | '+' :: rest => (false, rest)
  | text => (false, text)

/-- A whole text of digits, at least one. -/
def readNatural (text : List Char) : Option Nat :=
  if !text.isEmpty && text.all Char.isDigit then some (numberOf text) else none

def readInteger (text : List Char) : Option Int :=
  let (negative, digits) := takeSign text
  (readNatural digits).map fun number => if negative then -(number : Int) else number

/-- The power of ten that ends a number, zero if there is none. -/
def readPower : List Char → Option Int
  | [] => some 0
  | mark :: power => if mark = 'e' ∨ mark = 'E' then readInteger power else none

def readFinite (negative : Bool) (text : List Char) : Option Real := do
  let whole := text.takeWhile Char.isDigit
  let rest := text.dropWhile Char.isDigit
  let (fraction, rest) :=
    match rest with
    | '.' :: rest => (rest.takeWhile Char.isDigit, rest.dropWhile Char.isDigit)
    | rest => ([], rest)
  let digits := whole ++ fraction
  if digits.isEmpty then none
  else
    let power ← readPower rest
    match Binary64.ofDecimal (numberOf digits) (power - fraction.length) with
    | some magnitude => some (.finite negative magnitude)
    | none => some (.infinite negative)

def read (text : List Char) : Option Real :=
  let (negative, body) := takeSign text
  match String.ofList (body.map Char.toLower) with
  | "inf" | "infinity" => some (.infinite negative)
  | "nan" => some .notANumber
  | _ => readFinite negative body

/-- Rounded to a count, a half upwards; below zero there is only zero. -/
def toCount : Real → Option Nat
  | .finite negative magnitude => some (if negative then 0 else magnitude.roundHalfUp)
  | .infinite negative => if negative then some 0 else none
  | .notANumber => some 0

end Real
end EventStore
