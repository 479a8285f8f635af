import EventStore.Json.Value
import EventStore.Decimal.Digits

/-! Reading JSON numbers. A number without fraction and exponent that fits a 64-bit word stays an
integer. Of any other, the leading digits that fit an unsigned word are taken as a whole number,
rounded, and scaled by a power of ten with one more rounding, so a long decimal may come out a
unit in the last place beside the nearest value. -/

namespace EventStore.Json

/-- Unsigned words end here. -/
def wordLimit : Nat := 18446744073709551616

/-- The magnitudes of negative signed words reach to here. -/
def signedLimit : Nat := 9223372036854775808

/-- The digits taken into a word that started as `word`, and how many more there were. -/
def absorbed (word : Nat) : List Char → Nat × Nat
  | [] => (word, 0)
  | digit :: digits =>
    let longer := word * 10 + digitValue digit
    if longer < wordLimit then absorbed longer digits else (word, digits.length + 1)

/-- The greatest power of ten within the range. -/
def greatestPower : Nat := 308

def powerOfTen (power : Nat) : Binary64 :=
  (Binary64.nearest (wholePower 10 power) 1).getD Binary64.zero

/-- Divides by the greatest power of ten a number of times, or until nothing is left. -/
def steppedDown : Nat → Binary64 → Option Binary64
  | 0, value => some value
  | steps + 1, value =>
    if value.isZero then some value
    else (value.dividedBy (powerOfTen greatestPower)).bind (steppedDown steps)

/-- Scales by a power of ten, nothing on overflow. A power below the range is applied in steps. -/
def scaledByTen (value : Binary64) (power : Int) : Option Binary64 :=
  let size := power.natAbs
  if 0 ≤ power then
    if size ≤ greatestPower then value.multipliedBy (powerOfTen size)
    else if value.isZero then some value
    else none
  else
    let steps := (size - 1) / greatestPower
    let last := powerOfTen (size - steps * greatestPower)
    (steppedDown steps value).bind (Binary64.dividedBy · last)

def wholeNumber (negative : Bool) (word : Nat) : Option Number :=
  if negative then
    if 0 < word ∧ word ≤ signedLimit then some (.integer (-word))
    else (Binary64.nearest word 1).map (.decimal true)
  else some (.integer word)

/-- One zero, or digits that start with another one. -/
def readWhole (text : List Char) : Option (List Char × List Char) :=
  let digits := text.takeWhile Char.isDigit
  match digits with
  | [] => none
  | '0' :: _ :: _ => none
  | _ => some (digits, text.dropWhile Char.isDigit)

/-- The digits after a point, at least one; none at all where no point stands. -/
def readFraction : List Char → Option (List Char × List Char)
  | '.' :: rest =>
    let digits := rest.takeWhile Char.isDigit
    if digits.isEmpty then none else some (digits, rest.dropWhile Char.isDigit)
  | text => some ([], text)

def readPower (text : List Char) : Option (Nat × List Char) :=
  let digits := text.takeWhile Char.isDigit
  if digits.isEmpty then none
  else some (numberOf digits, text.dropWhile Char.isDigit)

/-- The power of ten after an `e` in either case; nothing where none stands. -/
def readExponent : List Char → Option (Option Int × List Char)
  | char :: rest =>
    if char = 'e' ∨ char = 'E' then
      match rest with
      | '-' :: rest => (readPower rest).map fun (power, rest) => (some (-power : Int), rest)
      | '+' :: rest => (readPower rest).map fun (power, rest) => (some (power : Int), rest)
      | rest => (readPower rest).map fun (power, rest) => (some (power : Int), rest)
    else some (none, char :: rest)
  | [] => some (none, [])

def readNumber (text : List Char) : Option (Number × List Char) := do
  let (negative, text) :=
    match text with
    | '-' :: rest => (true, rest)
    | rest => (false, rest)
  let (whole, text) ← readWhole text
  let (fraction, text) ← readFraction text
  let (power, text) ← readExponent text
  let (word, dropped) := absorbed 0 whole
  if dropped = 0 ∧ fraction.isEmpty ∧ power.isNone then
    let number ← wholeNumber negative word
    return (number, text)
  else
    let (word, ignored) := absorbed word fraction
    let shift : Int := dropped - (fraction.length - ignored : Nat)
    let leading ← Binary64.nearest word 1
    let magnitude ← scaledByTen leading (shift + power.getD 0)
    return (.decimal negative magnitude, text)

end EventStore.Json
