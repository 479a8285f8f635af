import EventStore.Time.Instant
import EventStore.Text.Characters
import EventStore.Decimal.Digits

/-! Timestamps as records keep them: `2024-03-01 12:30:05.000123`, in universal time and to the
microsecond. Reading is more lenient than writing: fields need no padding, blanks may precede
any of them, and the fraction may have any length. -/

namespace EventStore.Timestamp

/-- At least `width` digits. -/
def padded (width number : Nat) : List Char :=
  let digits := decimalDigits number
  List.replicate (width - digits.length) '0' ++ digits

/-- Four digits for the years of the common era up to 9999, a sign before all others. -/
def writeYear (year : Int) : List Char :=
  if 0 ≤ year ∧ year ≤ 9999 then padded 4 year.natAbs
  else (if year < 0 then '-' else '+') :: padded 4 year.natAbs

def write (instant : Instant) : List Char :=
  let clock := instant.reading
  writeYear clock.date.year ++ '-' :: padded 2 clock.date.month ++ '-' :: padded 2 clock.date.day ++
    ' ' :: padded 2 clock.hour ++ ':' :: padded 2 clock.minute ++ ':' :: padded 2 clock.second ++
    '.' :: padded 6 (clock.nanoseconds / Instant.nanosPerMicro)

/-- A number of at least one digit; digits beyond the limit are left in the text. -/
def readDigits (limit : Nat) (text : List Char) : Option (Nat × List Char) :=
  let digits := (text.takeWhile Char.isDigit).take limit
  if digits.isEmpty then none else some (numberOf digits, text.drop digits.length)

def readField (text : List Char) : Option (Nat × List Char) :=
  readDigits 2 (Text.skipBlanks text)

/-- Up to four digits, or a sign and any number of them. -/
def readYear (text : List Char) : Option (Int × List Char) :=
  match Text.skipBlanks text with
  | '-' :: rest => (readDigits rest.length rest).map fun (year, rest) => (-(year : Int), rest)
  | '+' :: rest => (readDigits rest.length rest).map fun (year, rest) => ((year : Int), rest)
  | rest => (readDigits 4 rest).map fun (year, rest) => ((year : Int), rest)

def expect (char : Char) : List Char → Option (List Char)
  | [] => none
  | head :: rest => if head = char then some rest else none

/-- A point and at least one digit, of which nine count; nothing stands for zero. -/
def readFraction : List Char → Option (Nat × List Char)
  | '.' :: rest =>
    let digits := (rest.takeWhile Char.isDigit).take 9
    if digits.isEmpty then none
    else some (numberOf digits * Nat.pow 10 (9 - digits.length), rest.dropWhile Char.isDigit)
  | text => some (0, text)

def readReading (text : List Char) : Option ClockReading := do
  let (year, text) ← readYear text
  let text ← expect '-' text
  let (month, text) ← readField text
  let text ← expect '-' text
  let (day, text) ← readField text
  let (hour, text) ← readField text
  let text ← expect ':' text
  let (minute, text) ← readField text
  let text ← expect ':' text
  let (second, text) ← readField text
  let (nanoseconds, text) ← readFraction text
  if text.isEmpty then
    some { date := ⟨year, month, day⟩, hour, minute, second, nanoseconds }
  else none

def read (text : List Char) : Option Instant := (readReading text).bind Instant.ofReading

def format (instant : Instant) : String := String.ofList (write instant)

def parse (text : String) : Option Instant := read text.toList

end EventStore.Timestamp
