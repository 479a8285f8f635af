import EventStore.Time.Calendar

/-! Instants of universal time. A leap second shares the count of the second before it and is
told apart by nanoseconds of one thousand million and more. -/

namespace EventStore

structure Instant where
  /-- Seconds since the start of 1970. -/
  seconds : Int
  /-- Nanoseconds counted forward from that second. -/
  nanoseconds : Nat
  deriving DecidableEq, Repr, Inhabited

/-- A date and a time of day; the second is 60 in a leap second. -/
structure ClockReading where
  date : CivilDate
  hour : Nat
  minute : Nat
  second : Nat
  nanoseconds : Nat
  deriving DecidableEq, Repr

namespace Instant

def epoch : Instant := ⟨0, 0⟩

def secondsPerDay : Int := 86400

def nanosPerSecond : Nat := 1000000000

def nanosPerMicro : Nat := 1000

/-- Nanoseconds rounded down to whole microseconds. -/
def toMicros (instant : Instant) : Instant :=
  { instant with nanoseconds := instant.nanoseconds / nanosPerMicro * nanosPerMicro }

def reading (instant : Instant) : ClockReading :=
  let inDay := (instant.seconds % secondsPerDay).toNat
  { date := Calendar.dateOfDay (instant.seconds / secondsPerDay)
    hour := inDay / 3600
    minute := inDay / 60 % 60
    second := inDay % 60 + instant.nanoseconds / nanosPerSecond
    nanoseconds := instant.nanoseconds % nanosPerSecond }

/-- The years an instant may lie in. -/
def inRange (year : Int) : Bool := -262143 ≤ year && year ≤ 262142

/-- The instant that shows a reading; none if the calendar or the clock does not have it. -/
def ofReading (clock : ClockReading) : Option Instant :=
  if Calendar.hasDate clock.date && inRange clock.date.year && clock.hour < 24 &&
      clock.minute < 60 && clock.second ≤ 60 then
    let leap := clock.second / 60
    some
      { seconds := Calendar.dayOfDate clock.date * secondsPerDay + clock.hour * 3600 +
          clock.minute * 60 + (clock.second - leap : Nat)
        nanoseconds := clock.nanoseconds + leap * nanosPerSecond }
  else none

end Instant
end EventStore
