import EventStore.Time.Timestamp
import EventStore.Proofs.CalendarDates
import EventStore.Proofs.DigitRuns

/-! A timestamp that was written reads back to the microsecond. Every field is padded digits
before a character that is none, so each is taken whole and nothing of the next one with it. -/

namespace EventStore
open Proofs.DigitRuns

namespace Instant

/-- The instants that callers can hold. A leap second stands at the end of a minute. -/
structure Valid (instant : Instant) : Prop where
  year : inRange (Calendar.dateOfDay (instant.seconds / secondsPerDay)).year = true
  bounded : instant.nanoseconds < 2 * nanosPerSecond
  leap : nanosPerSecond ≤ instant.nanoseconds → instant.seconds % 60 = 59

def microReading (instant : Instant) : ClockReading :=
  { instant.reading with nanoseconds := instant.reading.nanoseconds / nanosPerMicro * nanosPerMicro }

theorem ofReading_eq {clock : ClockReading} (known : Calendar.hasDate clock.date = true)
    (year : inRange clock.date.year = true) (hour : clock.hour < 24) (minute : clock.minute < 60)
    (second : clock.second ≤ 60) :
    ofReading clock = some
      { seconds := Calendar.dayOfDate clock.date * secondsPerDay + clock.hour * 3600 +
          clock.minute * 60 + (clock.second - clock.second / 60 : Nat)
        nanoseconds := clock.nanoseconds + clock.second / 60 * nanosPerSecond } := by
  rw [ofReading, if_pos]
  simp [known, year, hour, minute, second]

/-- A time of day is shown in hours, minutes and seconds without loss. -/
theorem seconds_add_up (seconds : Int) :
    seconds / secondsPerDay * secondsPerDay + ((seconds % secondsPerDay).toNat / 3600 : Nat) * 3600 +
        ((seconds % secondsPerDay).toNat / 60 % 60 : Nat) * 60 +
        ((seconds % secondsPerDay).toNat % 60 : Nat) = seconds := by
  have start := Int.emod_nonneg seconds (show secondsPerDay ≠ 0 by decide)
  simp only [secondsPerDay] at *
  omega

theorem micros_add_up (nanoseconds : Nat) :
    nanoseconds % nanosPerSecond / nanosPerMicro * nanosPerMicro +
        nanoseconds / nanosPerSecond * nanosPerSecond =
      nanoseconds / nanosPerMicro * nanosPerMicro := by
  simp only [nanosPerSecond, nanosPerMicro]
  omega

/-- The clock shows a time of day, and a second of sixty only for a leap. -/
structure Shown (clock : ClockReading) (leap : Nat) : Prop where
  hour : clock.hour < 24
  minute : clock.minute < 60
  second : clock.second ≤ 60
  leap : clock.second / 60 = leap
  fraction : clock.nanoseconds < nanosPerSecond

theorem leap_of_second {inDay leap : Nat} (last : 0 < leap → inDay % 60 = 59) (single : leap ≤ 1) :
    inDay % 60 + leap ≤ 60 ∧ (inDay % 60 + leap) / 60 = leap := by
  omega

theorem shown_reading {instant : Instant} (valid : instant.Valid) :
    Shown instant.reading (instant.nanoseconds / nanosPerSecond) := by
  have inDay : (instant.seconds % secondsPerDay).toNat < 86400 := by
    have finish := Int.emod_lt_of_pos instant.seconds (show 0 < secondsPerDay by decide)
    simp only [secondsPerDay] at *
    omega
  have single : instant.nanoseconds / nanosPerSecond ≤ 1 := by
    have bounded := valid.bounded
    simp only [nanosPerSecond] at *
    omega
  have last : 0 < instant.nanoseconds / nanosPerSecond →
      (instant.seconds % secondsPerDay).toNat % 60 = 59 := by
    have leap := valid.leap
    simp only [nanosPerSecond, secondsPerDay] at *
    omega
  obtain ⟨second, extra⟩ := leap_of_second last single
  constructor
  · show (instant.seconds % secondsPerDay).toNat / 3600 < 24
    omega
  · exact Nat.mod_lt _ (by decide)
  · exact second
  · exact extra
  · exact Nat.mod_lt _ (by decide)

theorem ofReading_microReading {instant : Instant} (valid : instant.Valid) :
    ofReading instant.microReading = some instant.toMicros := by
  obtain ⟨counts, known⟩ := Calendar.dateOfDay_spec (instant.seconds / secondsPerDay)
  obtain ⟨hour, minute, second, leap, _⟩ := shown_reading valid
  have shown : ofReading instant.microReading = _ :=
    ofReading_eq known valid.year hour minute second
  rw [shown]
  simp only [reading] at leap
  simp only [microReading, reading, toMicros, counts, leap, Nat.add_sub_cancel, seconds_add_up,
    micros_add_up]

end Instant

namespace Timestamp

theorem allDigits_padded (width number : Nat) : AllDigits (padded width number) :=
  allDigits_append.mpr ⟨allDigits_replicate_zero, allDigits_decimalDigits⟩

theorem numberOf_padded (width number : Nat) : numberOf (padded width number) = number := by
  rw [padded, numberOf_replicate_zero, numberOf_decimalDigits]

theorem padded_ne_nil (width number : Nat) : padded width number ≠ [] := by
  simp [padded, decimalDigits_ne_nil]

theorem length_padded {width number : Nat} (small : number < Nat.pow 10 (width + 1)) :
    (padded (width + 1) number).length = width + 1 := by
  have bounded := length_decimalDigits_le small
  simp only [padded, List.length_append, List.length_replicate]
  omega

theorem readDigits_padded {limit width number : Nat} {rest : List Char}
    (fits : (padded width number).length ≤ limit) (stops : Stops rest) :
    readDigits limit (padded width number ++ rest) = some (number, rest) := by
  have taken : (padded width number).take limit = padded width number := List.take_of_length_le fits
  rw [readDigits, takeWhile_run (allDigits_padded width number) stops]
  simp only [taken, List.isEmpty_iff, padded_ne_nil, if_false, numberOf_padded, List.drop_left]

theorem not_blank_of_isDigit {char : Char} (digit : char.isDigit = true) :
    Text.isBlank char = false := by
  have small : ∀ value < 10, Text.isBlank (Char.ofNat (48 + value)) = false := by decide
  have bounds : 48 ≤ char.toNat ∧ char.toNat ≤ 57 := by
    simpa [Char.isDigit, Char.le_def, UInt32.le_iff_toNat_le] using digit
  have same : char = Char.ofNat (48 + (char.toNat - 48)) := by
    rw [Nat.add_sub_cancel' bounds.1, Char.ofNat_toNat]
  rw [same]
  exact small _ (by omega)

theorem skipBlanks_padded (width number : Nat) (rest : List Char) :
    Text.skipBlanks (padded width number ++ rest) = padded width number ++ rest := by
  obtain ⟨first, others, shape⟩ := List.exists_cons_of_ne_nil (padded_ne_nil width number)
  have digit := allDigits_padded width number first (shape ▸ List.mem_cons_self)
  rw [shape, List.cons_append, Text.skipBlanks, List.dropWhile_cons_of_neg]
  simp [not_blank_of_isDigit digit]

theorem readField_padded {number : Nat} {rest : List Char} (small : number < 100)
    (stops : Stops rest) : readField (padded 2 number ++ rest) = some (number, rest) := by
  rw [readField, skipBlanks_padded]
  exact readDigits_padded (Nat.le_of_eq (length_padded small)) stops

/-- The blank between day and hour belongs to the hour. -/
theorem readField_blank {number : Nat} {rest : List Char} (small : number < 100)
    (stops : Stops rest) : readField (' ' :: (padded 2 number ++ rest)) = some (number, rest) :=
  readField_padded small stops

/-- Neither sign can be taken for a digit. -/
theorem padded_unsigned {width number : Nat} {rest after : List Char} {sign : Char}
    (signed : sign.isDigit = false) : padded width number ++ rest ≠ sign :: after := by
  obtain ⟨first, others, shape⟩ := List.exists_cons_of_ne_nil (padded_ne_nil width number)
  have digit := allDigits_padded width number first (shape ▸ List.mem_cons_self)
  rw [shape, List.cons_append]
  intro same
  rw [(List.cons.inj same).1, signed] at digit
  cases digit

theorem readYear_writeYear {year : Int} {rest : List Char} (stops : Stops rest) :
    readYear (writeYear year ++ rest) = some (year, rest) := by
  rw [writeYear]
  split
  next common =>
    have small : year.natAbs < Nat.pow 10 (3 + 1) := by
      change year.natAbs < 10000
      omega
    have whole : (year.natAbs : Int) = year := by omega
    have read := readDigits_padded (Nat.le_of_eq (length_padded small)) stops
    rw [readYear, skipBlanks_padded]
    split
    next impossible => exact absurd impossible (padded_unsigned (by decide))
    next impossible => exact absurd impossible (padded_unsigned (by decide))
    next => simp only [read, Option.map_some, whole]
  next other =>
    have fits : (padded 4 year.natAbs).length ≤ (padded 4 year.natAbs ++ rest).length := by simp
    have read := readDigits_padded fits stops
    by_cases negative : year < 0
    · have whole : -(year.natAbs : Int) = year := by omega
      rw [if_pos negative]
      change (readDigits (padded 4 year.natAbs ++ rest).length
        (padded 4 year.natAbs ++ rest)).map _ = _
      simp only [read, Option.map_some, whole]
    · have whole : (year.natAbs : Int) = year := by omega
      rw [if_neg negative]
      change (readDigits (padded 4 year.natAbs ++ rest).length
        (padded 4 year.natAbs ++ rest)).map _ = _
      simp only [read, Option.map_some, whole]

theorem readFraction_padded {number : Nat} (small : number < Nat.pow 10 (5 + 1)) :
    readFraction ('.' :: padded 6 number) = some (number * Instant.nanosPerMicro, []) := by
  have length : (padded 6 number).length = 6 := length_padded small
  have taken := takeWhile_run (allDigits_padded 6 number) stops_nil
  have dropped := dropWhile_run (allDigits_padded 6 number) stops_nil
  rw [List.append_nil] at taken dropped
  have kept : (padded 6 number).take 9 = padded 6 number := List.take_of_length_le (by omega)
  rw [readFraction, taken, kept, dropped, if_neg (by simpa using padded_ne_nil 6 number),
    numberOf_padded, length]
  rfl

/-- A date has a month and a day of at most two digits each. -/
theorem small_of_hasDate {date : CivilDate} (known : Calendar.hasDate date = true) :
    date.month < 100 ∧ date.day < 100 := by
  rw [Calendar.hasDate, Bool.and_eq_true, Bool.and_eq_true] at known
  obtain ⟨_, bounded⟩ := known
  split at bounded
  next length found =>
    obtain ⟨inside, _⟩ := List.getElem?_eq_some_iff.mp found
    have longest : length ≤ 31 := by
      have member := List.mem_of_getElem? found
      simp only [Calendar.monthLengths, List.mem_cons, List.not_mem_nil, or_false] at member
      split at member <;> omega
    rw [Calendar.monthLengths] at inside
    simp only [List.length_cons, List.length_nil, decide_eq_true_eq] at inside bounded
    omega
  next => cases bounded

theorem readReading_write {instant : Instant} (valid : instant.Valid) :
    readReading (write instant) = some instant.microReading := by
  have known : Calendar.hasDate instant.reading.date = true := (Calendar.dateOfDay_spec _).2
  obtain ⟨month, day⟩ := small_of_hasDate known
  obtain ⟨hour, minute, second, _, fraction⟩ := Instant.shown_reading valid
  have micros : instant.reading.nanoseconds / Instant.nanosPerMicro < Nat.pow 10 (5 + 1) := by
    change _ < 1000000
    simp only [Instant.nanosPerSecond, Instant.nanosPerMicro] at *
    omega
  have hyphen (text : List Char) : Stops ('-' :: text) := stops_cons.mpr rfl
  have blank (text : List Char) : Stops (' ' :: text) := stops_cons.mpr rfl
  have colon (text : List Char) : Stops (':' :: text) := stops_cons.mpr rfl
  have point (text : List Char) : Stops ('.' :: text) := stops_cons.mpr rfl
  simp only [write, readReading, List.append_assoc, List.cons_append]
  rw [readYear_writeYear (hyphen _)]
  simp only [Option.bind_eq_bind, Option.bind_some, expect, if_true,
    readField_padded month (hyphen _), readField_padded day (blank _),
    readField_blank (Nat.lt_trans hour (by decide)) (colon _),
    readField_padded (Nat.lt_trans minute (by decide)) (colon _),
    readField_padded (Nat.lt_of_le_of_lt second (by decide)) (point _), readFraction_padded micros]
  rfl

/-- Nothing below a microsecond is written. -/
theorem write_toMicros (instant : Instant) : write instant.toMicros = write instant := by
  have second : instant.nanoseconds / Instant.nanosPerMicro * Instant.nanosPerMicro /
      Instant.nanosPerSecond = instant.nanoseconds / Instant.nanosPerSecond := by
    simp only [Instant.nanosPerMicro, Instant.nanosPerSecond]
    omega
  have fraction : instant.nanoseconds / Instant.nanosPerMicro * Instant.nanosPerMicro %
      Instant.nanosPerSecond / Instant.nanosPerMicro =
        instant.nanoseconds % Instant.nanosPerSecond / Instant.nanosPerMicro := by
    simp only [Instant.nanosPerMicro, Instant.nanosPerSecond]
    omega
  simp only [write, Instant.toMicros, Instant.reading, second, fraction]

theorem parse_format {instant : Instant} (valid : instant.Valid) :
    parse (format instant) = some instant.toMicros := by
  rw [parse, format, String.toList_ofList, read, readReading_write valid, Option.bind_some,
    Instant.ofReading_microReading valid]

end Timestamp
end EventStore
