/-! The Gregorian calendar, extended without limit into the past and the future. Years are
counted with a year zero; a day number counts from the first of January 1970. -/

namespace EventStore

structure CivilDate where
  year : Int
  month : Nat
  day : Nat
  deriving DecidableEq, Repr, Inhabited

namespace Calendar

def isLeap (year : Int) : Bool := year % 4 = 0 && (year % 100 ≠ 0 || year % 400 = 0)

def monthLengths (leap : Bool) : List Nat :=
  [31, if leap then 29 else 28, 31, 30, 31, 30, 31, 31, 30, 31, 30, 31]

/-- The days between the start of year zero and the start of a year. -/
def daysBeforeYear (year : Int) : Int :=
  365 * year + (year + 3) / 4 - (year + 99) / 100 + (year + 399) / 400

/-- The days of four hundred years, after which the calendar repeats. -/
def cycleDays : Int := 146097

/-- The number of the first of January of year zero. -/
def firstDay : Int := -719528

/-- The year that holds a day counted from the start of year zero. Taking every year for a long
one is at most one year short within a cycle. -/
def yearOfDay (day : Int) : Int :=
  let inCycle := day % cycleDays
  let guess := inCycle / 366
  let year := if daysBeforeYear (guess + 1) ≤ inCycle then guess + 1 else guess
  400 * (day / cycleDays) + year

/-- The month and day of a day of the year, both from one, given the months still to come. -/
def monthAndDay (month : Nat) : List Nat → Nat → Nat × Nat
  | [], day => (month, day + 1)
  | length :: lengths, day =>
    if day < length then (month, day + 1) else monthAndDay (month + 1) lengths (day - length)

def dateOfDay (number : Int) : CivilDate :=
  let day := number - firstDay
  let year := yearOfDay day
  let (month, day) := monthAndDay 1 (monthLengths (isLeap year)) (day - daysBeforeYear year).toNat
  ⟨year, month, day⟩

def total (lengths : List Nat) : Nat := lengths.foldl (· + ·) 0

/-- Whether the calendar has the date. -/
def hasDate (date : CivilDate) : Bool :=
  1 ≤ date.month && 1 ≤ date.day &&
    match (monthLengths (isLeap date.year))[date.month - 1]? with
    | some length => date.day ≤ length
    | none => false

def dayOfDate (date : CivilDate) : Int :=
  let before := total ((monthLengths (isLeap date.year)).take (date.month - 1))
  firstDay + daysBeforeYear date.year + before + date.day - 1

end Calendar
end EventStore
