import EventStore.Proofs.TimestampText

/-! Timestamps that were read. However lenient reading was about a text, the instant it gave is one
that callers can hold, so writing it and reading again settles on one text at once. -/

namespace EventStore

namespace Instant

theorem valid_of_ofReading {clock : ClockReading} {instant : Instant}
    (shown : ofReading clock = some instant) (fraction : clock.nanoseconds < nanosPerSecond) :
    instant.Valid := by
  rw [ofReading] at shown
  split at shown
  next possible =>
    simp only [Bool.and_eq_true, decide_eq_true_eq] at possible
    obtain ⟨⟨⟨⟨known, year⟩, hour⟩, minute⟩, second⟩ := possible
    have leap : clock.second / 60 ≤ 1 := by omega
    have date := Calendar.dateOfDay_dayOfDate known
    cases shown
    constructor
    · have day : (Calendar.dayOfDate clock.date * secondsPerDay + clock.hour * 3600 +
          clock.minute * 60 + (clock.second - clock.second / 60 : Nat)) / secondsPerDay =
            Calendar.dayOfDate clock.date := by
        simp only [secondsPerDay]
        omega
      rw [day, date]
      exact year
    · simp only [nanosPerSecond] at *
      omega
    · simp only [nanosPerSecond, secondsPerDay] at *
      omega
  next => cases shown

end Instant

namespace Timestamp
open Proofs.DigitRuns

theorem readFraction_lt {text rest : List Char} {nanoseconds : Nat}
    (read : readFraction text = some (nanoseconds, rest)) :
    nanoseconds < Instant.nanosPerSecond := by
  rw [readFraction.eq_def] at read
  split at read
  next text =>
    simp only at read
    split at read
    next => cases read
    next =>
      cases read
      have run : AllDigits ((text.takeWhile Char.isDigit).take 9) :=
        fun char member => List.all_eq_true.mp List.all_takeWhile char (List.mem_of_mem_take member)
      have short : ((text.takeWhile Char.isDigit).take 9).length ≤ 9 := List.length_take_le ..
      generalize (text.takeWhile Char.isDigit).take 9 = digits at run short
      have scaled := Nat.mul_lt_mul_of_pos_right (numberOf_lt run)
        (Nat.pow_pos (n := 9 - digits.length) (show 0 < 10 by decide))
      rw [← Nat.pow_add, Nat.add_sub_cancel' short] at scaled
      exact scaled
  next =>
    cases read
    decide

theorem nanoseconds_readReading {text : List Char} {clock : ClockReading}
    (read : readReading text = some clock) : clock.nanoseconds < Instant.nanosPerSecond := by
  simp only [readReading, Option.bind_eq_bind, Option.bind_eq_some_iff] at read
  obtain ⟨_, _, _, _, _, _, _, _, _, _, _, _, _, _, _, _, _, _, _, _, fraction, counted, read⟩ := read
  split at read
  next =>
    cases read
    exact readFraction_lt counted
  next => cases read

theorem valid_of_parse {text : String} {instant : Instant} (read : parse text = some instant) :
    instant.Valid := by
  obtain ⟨clock, shown, held⟩ := Option.bind_eq_some_iff.mp read
  exact Instant.valid_of_ofReading held (nanoseconds_readReading shown)

theorem format_leap {instant : Instant} (valid : instant.Valid)
    (leap : Instant.nanosPerSecond ≤ instant.nanoseconds) :
    ∃ before micros, micros.length = 6 ∧ format instant = before ++ ":60." ++ micros := by
  obtain ⟨_, _, second, single, fraction⟩ := Instant.shown_reading valid
  have sixtieth : instant.reading.second = 60 := by
    have bounded := valid.bounded
    simp only [Instant.nanosPerSecond] at *
    omega
  have small : instant.reading.nanoseconds / Instant.nanosPerMicro < Nat.pow 10 (5 + 1) := by
    change _ < 1000000
    simp only [Instant.nanosPerSecond, Instant.nanosPerMicro] at *
    omega
  have digits : padded 2 60 = ['6', '0'] := by decide +kernel
  let front := writeYear instant.reading.date.year ++ '-' :: padded 2 instant.reading.date.month ++
    '-' :: padded 2 instant.reading.date.day ++ ' ' :: padded 2 instant.reading.hour ++
    ':' :: padded 2 instant.reading.minute
  let micros := padded 6 (instant.reading.nanoseconds / Instant.nanosPerMicro)
  refine ⟨String.ofList front, String.ofList micros, ?_, ?_⟩
  · rw [String.length_ofList, length_padded small]
  · apply String.toList_inj.mp
    simp [format, write, sixtieth, digits, front, micros]

/-- What is written reads back to the microsecond, and a leap second shows as the sixtieth. So no
two instants without smaller parts are written alike. Any text that reads as an instant settles
after being written once: it reads as that instant to the microsecond and is written the same. -/
theorem timestamps_settle_to_the_microsecond :
    (∀ instant : Instant, instant.Valid → parse (format instant) = some instant.toMicros ∧
      (Instant.nanosPerSecond ≤ instant.nanoseconds →
        ∃ before micros, micros.length = 6 ∧ format instant = before ++ ":60." ++ micros)) ∧
      (∀ one other : Instant, one.Valid → other.Valid → one.toMicros = one →
        other.toMicros = other → format one = format other → one = other) ∧
      ∀ text instant, parse text = some instant →
        parse (format instant) = some instant.toMicros ∧
          format instant.toMicros = format instant := by
  refine ⟨fun instant valid => ⟨parse_format valid, format_leap valid⟩, ?_, ?_⟩
  · intro one other valid alsoValid whole alsoWhole same
    have back := parse_format valid
    rw [same, parse_format alsoValid, whole, alsoWhole] at back
    exact (Option.some.inj back).symm
  · intro text instant read
    exact ⟨parse_format (valid_of_parse read), congrArg String.ofList (write_toMicros instant)⟩

/-- A leap second before the common era keeps its microseconds, and a loosely written text of a
year beyond four digits settles. -/
theorem timestamps_settle_to_the_microsecond_leap :
    let leap : Instant := ⟨-62167219201, 1999999999⟩
    let loose : Instant := ⟨327376883109, 123456789⟩
    leap.Valid ∧ parse (format leap) = some leap.toMicros ∧
      parse " +012344- 2-29\t 7:5: 9.1234567891" = some loose ∧
      parse (format loose) = some loose.toMicros ∧ format loose.toMicros = format loose ∧
      leap.toMicros.Valid ∧ loose.toMicros.Valid ∧ format leap.toMicros ≠ format loose.toMicros := by
  intro leap loose
  obtain ⟨back, alone, settled⟩ := timestamps_settle_to_the_microsecond
  have valid : leap.Valid := ⟨by decide +kernel, by decide, by decide⟩
  have read : parse " +012344- 2-29\t 7:5: 9.1234567891" = some loose := by decide +kernel
  have cut : leap.toMicros.Valid := ⟨by decide +kernel, by decide, by decide⟩
  have cutLoose : loose.toMicros.Valid := ⟨by decide +kernel, by decide, by decide⟩
  refine ⟨valid, (back leap valid).1, read, (settled _ loose read).1, (settled _ loose read).2, cut,
    cutLoose, ?_⟩
  intro same
  exact absurd (alone _ _ cut cutLoose (by decide) (by decide) same) (by decide)

end Timestamp
end EventStore
