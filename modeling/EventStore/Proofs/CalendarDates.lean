import EventStore.Time.Calendar

/-! Every day number has a date, and the date leads back to it. The year is the one whose days
hold the number, and walking its months uses up what is left. So days and dates answer each other
one to one. -/

namespace EventStore.Calendar

@[simp] theorem total_nil : total [] = 0 := rfl

@[simp] theorem total_cons {length : Nat} {lengths : List Nat} :
    total (length :: lengths) = length + total lengths := by
  have general : ∀ start, lengths.foldl (· + ·) start = start + total lengths := by
    intro start
    rw [total, ← List.sum_eq_foldl]
    induction lengths generalizing start with
    | nil => rfl
    | cons next lengths ih => rw [List.foldl_cons, ih, List.sum_cons, Nat.add_assoc]
  rw [total, List.foldl_cons, general]
  simp

theorem daysBeforeYear_cycle (cycles year : Int) :
    daysBeforeYear (400 * cycles + year) = cycleDays * cycles + daysBeforeYear year := by
  simp only [daysBeforeYear, cycleDays]
  omega

/-- Within a cycle the guess is the right year or the one before it. -/
theorem guess_bounds {inCycle : Int} (positive : 0 ≤ inCycle) (inside : inCycle < cycleDays) :
    daysBeforeYear (inCycle / 366) ≤ inCycle ∧ inCycle < daysBeforeYear (inCycle / 366 + 2) := by
  simp only [daysBeforeYear, cycleDays] at *
  omega

theorem yearOfDay_bounds (day : Int) :
    daysBeforeYear (yearOfDay day) ≤ day ∧ day < daysBeforeYear (yearOfDay day + 1) := by
  have positive : 0 ≤ day % cycleDays := Int.emod_nonneg _ (by decide)
  have inside : day % cycleDays < cycleDays := Int.emod_lt_of_pos _ (by decide)
  have whole : cycleDays * (day / cycleDays) + day % cycleDays = day := Int.mul_ediv_add_emod ..
  obtain ⟨lower, upper⟩ := guess_bounds positive inside
  rw [yearOfDay]
  split
  next further =>
    rw [Int.add_assoc, daysBeforeYear_cycle, daysBeforeYear_cycle, Int.add_assoc]
    change _ ∧ _ < _ + daysBeforeYear (day % cycleDays / 366 + 2)
    omega
  next here =>
    rw [Int.add_assoc, daysBeforeYear_cycle, daysBeforeYear_cycle]
    omega

theorem total_monthLengths (year : Int) :
    (total (monthLengths (isLeap year)) : Int) = daysBeforeYear (year + 1) - daysBeforeYear year := by
  cases leap : isLeap year with
  | true =>
    simp [isLeap] at leap
    simp [monthLengths, daysBeforeYear]
    omega
  | false =>
    simp [isLeap] at leap
    simp [monthLengths, daysBeforeYear]
    omega

/-- Walking the months ends in one of them, and the days before it add up with those of its own. -/
theorem monthAndDay_spec (month : Nat) {day : Nat} {lengths : List Nat} (inside : day < total lengths) :
    ∃ passed length, lengths[passed]? = some length ∧
      (monthAndDay month lengths day).1 = month + passed ∧
      1 ≤ (monthAndDay month lengths day).2 ∧ (monthAndDay month lengths day).2 ≤ length ∧
      total (lengths.take passed) + (monthAndDay month lengths day).2 = day + 1 := by
  induction lengths generalizing month day with
  | nil => exact absurd inside (Nat.not_lt_zero _)
  | cons length lengths ih =>
    rw [total_cons] at inside
    rw [monthAndDay]
    split
    next here => exact ⟨0, length, rfl, rfl, Nat.succ_pos _, here, by simp⟩
    next later =>
      have rest : day - length < total lengths := by omega
      obtain ⟨passed, last, found, named, positive, bounded, sum⟩ := ih (month + 1) rest
      refine ⟨passed + 1, last, by simpa using found, ?_, positive, bounded, ?_⟩
      · rw [named]
        omega
      · rw [List.take_succ_cons, total_cons]
        omega

theorem dateOfDay_spec (number : Int) :
    dayOfDate (dateOfDay number) = number ∧ hasDate (dateOfDay number) = true := by
  obtain ⟨lower, upper⟩ := yearOfDay_bounds (number - firstDay)
  have year := total_monthLengths (yearOfDay (number - firstDay))
  have inside : (number - firstDay - daysBeforeYear (yearOfDay (number - firstDay))).toNat <
      total (monthLengths (isLeap (yearOfDay (number - firstDay)))) := by
    omega
  obtain ⟨passed, length, found, named, positive, bounded, sum⟩ := monthAndDay_spec 1 inside
  simp only [dateOfDay, dayOfDate, hasDate, named, Nat.add_sub_cancel_left, found]
  constructor
  · omega
  · simp [positive, bounded]

theorem daysBeforeYear_le {earlier later : Int} (order : earlier ≤ later) :
    daysBeforeYear earlier ≤ daysBeforeYear later := by
  obtain ⟨years, rfl⟩ := Int.le.dest order
  clear order
  induction years with
  | zero => simp
  | succ years ih =>
    have year := total_monthLengths (earlier + years)
    rw [Int.natCast_succ, ← Int.add_assoc]
    omega

theorem yearOfDay_eq {day year : Int} (lower : daysBeforeYear year ≤ day)
    (upper : day < daysBeforeYear (year + 1)) : yearOfDay day = year := by
  obtain ⟨first, last⟩ := yearOfDay_bounds day
  rcases Int.lt_trichotomy (yearOfDay day) year with before | same | after
  · have order := daysBeforeYear_le (Int.add_one_le_of_lt before)
    omega
  · exact same
  · have order := daysBeforeYear_le (Int.add_one_le_of_lt after)
    omega

theorem total_take_le {passed length : Nat} {lengths : List Nat}
    (found : lengths[passed]? = some length) :
    total (lengths.take passed) + length ≤ total lengths := by
  induction lengths generalizing passed with
  | nil => simp at found
  | cons first lengths ih =>
    cases passed with
    | zero =>
      cases found
      simp
    | succ passed =>
      have bounded : total (lengths.take passed) + length ≤ total lengths :=
        ih (by simpa using found)
      rw [List.take_succ_cons, total_cons, total_cons]
      omega

/-- The days of the months before one, and those of its own, lead into that month. -/
theorem monthAndDay_passed (month : Nat) {passed day length : Nat} {lengths : List Nat}
    (found : lengths[passed]? = some length) (inside : day < length) :
    monthAndDay month lengths (total (lengths.take passed) + day) = (month + passed, day + 1) := by
  induction lengths generalizing month passed with
  | nil => simp at found
  | cons first lengths ih =>
    rw [monthAndDay]
    cases passed with
    | zero =>
      cases found
      simp [inside]
    | succ passed =>
      have later : monthAndDay (month + 1) lengths (total (lengths.take passed) + day) =
          (month + 1 + passed, day + 1) := ih (month + 1) (by simpa using found)
      have beyond : ¬ total ((first :: lengths).take (passed + 1)) + day < first := by
        rw [List.take_succ_cons, total_cons]
        omega
      have rest : total ((first :: lengths).take (passed + 1)) + day - first =
          total (lengths.take passed) + day := by
        rw [List.take_succ_cons, total_cons]
        omega
      rw [if_neg beyond, rest, later]
      simp only [Prod.mk.injEq, and_true]
      omega

theorem dateOfDay_dayOfDate {date : CivilDate} (known : hasDate date = true) :
    dateOfDay (dayOfDate date) = date := by
  obtain ⟨year, month, day⟩ := date
  simp only [hasDate, Bool.and_eq_true, decide_eq_true_eq] at known
  obtain ⟨⟨someMonth, someDay⟩, bounded⟩ := known
  split at bounded
  next length found =>
    have last := of_decide_eq_true bounded
    have whole := total_take_le found
    have days := total_monthLengths year
    obtain ⟨month, rfl⟩ : ∃ passed, month = passed + 1 := ⟨month - 1, by omega⟩
    obtain ⟨day, rfl⟩ : ∃ earlier, day = earlier + 1 := ⟨day - 1, by omega⟩
    rw [Nat.add_sub_cancel] at found whole
    have held : yearOfDay (dayOfDate ⟨year, month + 1, day + 1⟩ - firstDay) = year := by
      apply yearOfDay_eq
      · simp only [dayOfDate, Nat.add_sub_cancel]
        omega
      · simp only [dayOfDate, Nat.add_sub_cancel]
        omega
    have left : (dayOfDate ⟨year, month + 1, day + 1⟩ - firstDay - daysBeforeYear year).toNat =
        total ((monthLengths (isLeap year)).take month) + day := by
      simp only [dayOfDate, Nat.add_sub_cancel]
      omega
    have walked := monthAndDay_passed 1 found (Nat.lt_of_succ_le last)
    rw [Nat.add_comm 1] at walked
    simp only [dateOfDay, held, left, walked]
  next => cases bounded

end EventStore.Calendar
