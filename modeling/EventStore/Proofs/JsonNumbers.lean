import EventStore.Json.Number
import EventStore.Json.Writer
import EventStore.Proofs.DigitRuns

/-! Numbers inside JSON text. Reading one does not look past a comma or a closing bracket, and
what was written as a number is taken whole, so each number is read back on its own. -/

namespace EventStore.Json
open Proofs.DigitRuns

/-- What may follow a value: the end of the text, a comma or a closing bracket. -/
def Ends (rest : List Char) : Prop := ∀ char ∈ rest.head?, char = ',' ∨ char = ']' ∨ char = '\x7d'

theorem ends_nil : Ends [] := by simp [Ends]

theorem ends_comma (rest : List Char) : Ends (',' :: rest) := by simp [Ends]

variable {rest : List Char}

theorem Ends.stops (ends : Ends rest) : Stops rest := by
  intro char first
  rcases ends char first with rfl | rfl | rfl <;> rfl

theorem Ends.head_ne (ends : Ends rest) {char : Char} (later : List Char)
    (other : char ≠ ',' ∧ char ≠ ']' ∧ char ≠ '\x7d') : rest ≠ char :: later := by
  rintro rfl
  rcases ends char rfl with same | same | same
  · exact other.1 same
  · exact other.2.1 same
  · exact other.2.2 same

/-- A reader that takes the same from a text whatever follows it, and leaves that too. -/
def Local (read : List Char → Option (α × List Char)) (rest : List Char) : Prop :=
  ∀ text, read (text ++ rest) = (read text).map (Prod.map id (· ++ rest))

theorem readWhole_local (ends : Ends rest) : Local readWhole rest := by
  intro text
  simp only [readWhole, takeWhile_append_stops text ends.stops,
    dropWhile_append_stops text ends.stops]
  split <;> rfl

theorem readPower_local (ends : Ends rest) : Local readPower rest := by
  intro text
  simp only [readPower, takeWhile_append_stops text ends.stops,
    dropWhile_append_stops text ends.stops]
  split <;> rfl

theorem readFraction_local (ends : Ends rest) : Local readFraction rest := by
  intro text
  have bare (text : List Char) (unpointed : ∀ rest, text ≠ '.' :: rest) :
      readFraction text = some ([], text) := by
    unfold readFraction
    split
    next after => exact absurd rfl (unpointed after)
    next => rfl
  by_cases pointed : ∃ after, text = '.' :: after
  · obtain ⟨after, rfl⟩ := pointed
    simp only [List.cons_append, readFraction, takeWhile_append_stops after ends.stops,
      dropWhile_append_stops after ends.stops]
    split <;> rfl
  · have unpointed (after : List Char) : text ≠ '.' :: after := fun same => pointed ⟨after, same⟩
    rw [bare text unpointed, bare (text ++ rest)]
    · rfl
    · intro after same
      cases text with
      | nil => exact ends.head_ne after (by decide) same
      | cons char text => exact unpointed text (by rw [(List.cons.inj same).1])

def readSignedPower : List Char → Option (Option Int × List Char)
  | '-' :: rest => (readPower rest).map fun (power, rest) => (some (-power : Int), rest)
  | '+' :: rest => (readPower rest).map fun (power, rest) => (some (power : Int), rest)
  | rest => (readPower rest).map fun (power, rest) => (some (power : Int), rest)

theorem readExponent_cons (mark : Char) (text : List Char) :
    readExponent (mark :: text) =
      if mark = 'e' ∨ mark = 'E' then readSignedPower text else some (none, mark :: text) := by
  unfold readExponent
  rfl

theorem readSignedPower_unsigned {text : List Char} (minus : ∀ rest, text ≠ '-' :: rest)
    (plus : ∀ rest, text ≠ '+' :: rest) : readSignedPower text =
      (readPower text).map fun (power, rest) => (some (power : Int), rest) := by
  unfold readSignedPower
  split
  next rest => exact absurd rfl (minus rest)
  next rest => exact absurd rfl (plus rest)
  next => rfl

theorem readSignedPower_local (ends : Ends rest) : Local readSignedPower rest := by
  intro text
  have powers := readPower_local ends
  by_cases minus : ∃ after, text = '-' :: after
  · obtain ⟨after, rfl⟩ := minus
    rw [List.cons_append, readSignedPower, readSignedPower, powers after]
    cases readPower after <;> rfl
  · by_cases plus : ∃ after, text = '+' :: after
    · obtain ⟨after, rfl⟩ := plus
      rw [List.cons_append, readSignedPower, readSignedPower, powers after]
      cases readPower after <;> rfl
    · have unsigned (sign : Char) (other : sign ≠ ',' ∧ sign ≠ ']' ∧ sign ≠ '\x7d')
          (absent : ¬ ∃ after, text = sign :: after) (after : List Char) :
          text ++ rest ≠ sign :: after := by
        intro same
        cases text with
        | nil => exact ends.head_ne after other same
        | cons first text => exact absent ⟨text, by rw [(List.cons.inj same).1]⟩
      rw [readSignedPower_unsigned (unsigned '-' (by decide) minus) (unsigned '+' (by decide) plus),
        readSignedPower_unsigned (fun after same => minus ⟨after, same⟩)
          (fun after same => plus ⟨after, same⟩), powers text]
      cases readPower text <;> rfl

theorem readExponent_local (ends : Ends rest) : Local readExponent rest := by
  intro text
  cases text with
  | nil =>
    cases rest with
    | nil => rfl
    | cons char rest =>
      have unmarked : ¬ (char = 'e' ∨ char = 'E') := by
        rcases ends char rfl with rfl | rfl | rfl <;> decide
      rw [List.nil_append, readExponent_cons, if_neg unmarked]
      rfl
  | cons mark text =>
    rw [List.cons_append, readExponent_cons, readExponent_cons]
    split
    · exact readSignedPower_local ends text
    · rfl

def valueOf (negative : Bool) (whole fraction : List Char) (power : Option Int) : Option Number := do
  let (word, dropped) := absorbed 0 whole
  if dropped = 0 ∧ fraction.isEmpty ∧ power.isNone then wholeNumber negative word
  else
    let (word, ignored) := absorbed word fraction
    let shift : Int := dropped - (fraction.length - ignored : Nat)
    let leading ← Binary64.nearest word 1
    let magnitude ← scaledByTen leading (shift + power.getD 0)
    return .decimal negative magnitude

def readUnsigned (negative : Bool) (text : List Char) : Option (Number × List Char) := do
  let (whole, text) ← readWhole text
  let (fraction, text) ← readFraction text
  let (power, text) ← readExponent text
  (valueOf negative whole fraction power).map (·, text)

/-- The number is computed from the parts alone and handed on with what is left of the text. -/
private theorem map_valueOf (negative : Bool) (whole fraction : List Char) (power : Option Int)
    (text : List Char) :
    (valueOf negative whole fraction power).map (·, text) =
      (do
        let (word, dropped) := absorbed 0 whole
        if dropped = 0 ∧ fraction.isEmpty ∧ power.isNone then
          let number ← wholeNumber negative word
          return (number, text)
        else
          let (word, ignored) := absorbed word fraction
          let shift : Int := dropped - (fraction.length - ignored : Nat)
          let leading ← Binary64.nearest word 1
          let magnitude ← scaledByTen leading (shift + power.getD 0)
          return (.decimal negative magnitude, text)) := by
  unfold valueOf
  dsimp only
  split
  · cases wholeNumber negative (absorbed 0 whole).1 <;> rfl
  · cases Binary64.nearest (absorbed (absorbed 0 whole).1 fraction).1 1 with
    | none => rfl
    | some leading =>
      simp only [Option.bind_eq_bind, Option.bind_some]
      cases scaledByTen leading _ <;> rfl

theorem readNumber_minus (text : List Char) :
    readNumber ('-' :: text) = readUnsigned true text := by
  unfold readNumber readUnsigned
  simp only [map_valueOf]

theorem readNumber_unsigned {text : List Char} (unsigned : ∀ rest, text ≠ '-' :: rest) :
    readNumber text = readUnsigned false text := by
  unfold readNumber
  split
  next negative body signed =>
    split at signed
    next rest => exact absurd rfl (unsigned rest)
    next =>
      obtain ⟨rfl, rfl⟩ := Prod.mk.inj signed
      unfold readUnsigned
      simp only [map_valueOf]

theorem readUnsigned_local (negative : Bool) (ends : Ends rest) :
    Local (readUnsigned negative) rest := by
  intro text
  unfold readUnsigned
  rw [readWhole_local ends text]
  cases readWhole text with
  | none => rfl
  | some whole =>
    simp only [Option.map_some, Option.bind_eq_bind, Option.bind_some, Prod.map, id]
    rw [readFraction_local ends whole.2]
    cases readFraction whole.2 with
    | none => rfl
    | some fraction =>
      simp only [Option.map_some, Option.bind_some, Prod.map, id]
      rw [readExponent_local ends fraction.2]
      cases readExponent fraction.2 with
      | none => rfl
      | some power =>
        simp only [Option.map_some, Option.bind_some, Prod.map, id]
        cases valueOf negative whole.1 fraction.1 power.1 <;> rfl

theorem readNumber_local (ends : Ends rest) : Local readNumber rest := by
  intro text
  by_cases minus : ∃ after, text = '-' :: after
  · obtain ⟨after, rfl⟩ := minus
    rw [List.cons_append, readNumber_minus, readNumber_minus]
    exact readUnsigned_local true ends after
  · have unsigned (after : List Char) : text ++ rest ≠ '-' :: after := by
      intro same
      cases text with
      | nil => exact ends.head_ne after (by decide) same
      | cons first text => exact minus ⟨text, by rw [(List.cons.inj same).1]⟩
    rw [readNumber_unsigned unsigned, readNumber_unsigned fun after same => minus ⟨after, same⟩]
    exact readUnsigned_local false ends text

/-- Nothing, or a point with digits after it. -/
def IsFraction (text : List Char) : Prop :=
  text = [] ∨ ∃ digits, AllDigits digits ∧ text = '.' :: digits

/-- Nothing, or a power of ten with its sign. -/
def IsExponent (text : List Char) : Prop :=
  text = [] ∨ ∃ sign digits, (sign = '-' ∨ sign = '+') ∧ AllDigits digits ∧
    text = 'e' :: sign :: digits

/-- How numbers are written: digits, then perhaps a fraction, then perhaps an exponent. -/
def IsUnsigned (text : List Char) : Prop :=
  ∃ whole fraction exponent, text = whole ++ (fraction ++ exponent) ∧ whole ≠ [] ∧
    AllDigits whole ∧ IsFraction fraction ∧ IsExponent exponent

theorem IsExponent.stops {exponent : List Char} (form : IsExponent exponent) : Stops exponent := by
  rcases form with rfl | ⟨sign, digits, _, _, rfl⟩
  · exact stops_nil
  · exact stops_cons.mpr rfl

/-- No zero stands before other digits. -/
def Leads (digits : List Char) : Prop :=
  digits ≠ [] ∧ ∀ others, digits = '0' :: others → others = []

theorem leads_singleton (digit : Char) : Leads [digit] := ⟨by simp, by simp⟩

theorem readWhole_run {digits later : List Char} (leads : Leads digits) (run : AllDigits digits)
    (stops : Stops later) : readWhole (digits ++ later) = some (digits, later) := by
  obtain ⟨some, proper⟩ := leads
  simp only [readWhole, takeWhile_run run stops, dropWhile_run run stops]
  split
  next => exact absurd rfl some
  next => cases proper _ rfl
  next => rfl

theorem readWhole_exhausts {digits later left taken : List Char} (run : AllDigits digits)
    (stops : Stops later) (read : readWhole (digits ++ later) = some (taken, left)) :
    left = later := by
  simp only [readWhole, takeWhile_run run stops, dropWhile_run run stops] at read
  split at read
  · cases read
  · cases read
  · cases read
    rfl

theorem readFraction_exhausts {fraction exponent left taken : List Char}
    (form : IsFraction fraction) (later : IsExponent exponent)
    (read : readFraction (fraction ++ exponent) = some (taken, left)) : left = exponent := by
  rcases form with rfl | ⟨digits, run, rfl⟩
  · rcases later with rfl | ⟨_, _, _, _, rfl⟩
    · cases read
      rfl
    · cases read
      rfl
  · simp only [List.cons_append, readFraction, dropWhile_run run later.stops] at read
    split at read
    · cases read
    · cases read
      rfl

theorem readExponent_exhausts {exponent left : List Char} {power : Option Int}
    (form : IsExponent exponent) (read : readExponent exponent = some (power, left)) :
    left = [] := by
  rcases form with rfl | ⟨sign, digits, signed, run, rfl⟩
  · cases read
    rfl
  · have dropped : digits.dropWhile Char.isDigit = [] := List.dropWhile_eq_nil_iff.mpr run
    rw [readExponent_cons, if_pos (.inl rfl)] at read
    rcases signed with rfl | rfl
    all_goals
      simp only [readSignedPower, readPower, dropped] at read
      split at read
      · cases read
      · cases read
        rfl

/-- Whatever is written as a number is read to its end, if it can be read at all. -/
theorem readUnsigned_exhausts {negative : Bool} {text left : List Char} {number : Number}
    (form : IsUnsigned text) (read : readUnsigned negative text = some (number, left)) :
    left = [] := by
  obtain ⟨whole, fraction, exponent, rfl, _, run, fractionForm, exponentForm⟩ := form
  have stops : Stops (fraction ++ exponent) := by
    rcases fractionForm with rfl | ⟨_, _, rfl⟩
    · exact exponentForm.stops
    · exact stops_cons.mpr rfl
  simp only [readUnsigned, Option.bind_eq_bind, Option.bind_eq_some_iff, Option.map_eq_some_iff,
    Prod.mk.injEq] at read
  obtain ⟨⟨_, afterWhole⟩, readWhole, ⟨_, afterFraction⟩, readFraction, ⟨_, after⟩, readExponent,
    _, _, _, rfl⟩ := read
  obtain rfl := readWhole_exhausts run stops readWhole
  obtain rfl := readFraction_exhausts fractionForm exponentForm readFraction
  exact readExponent_exhausts exponentForm readExponent

theorem isUnsigned_of_digits {digits : List Char} (some : digits ≠ []) (run : AllDigits digits) :
    IsUnsigned digits :=
  ⟨digits, [], [], by simp, some, run, .inl rfl, .inl rfl⟩

theorem isUnsigned_positionalText {digits : List Char} (leading : Int) (some : digits ≠ [])
    (run : AllDigits digits) : IsUnsigned (decimalLayout.positionalText digits leading) := by
  rw [Layout.positionalText]
  split
  · refine ⟨['0'], '.' :: (Layout.zeros (-leading - 1).toNat ++ digits), [], by simp, by simp,
      by simp [AllDigits], .inr ⟨_, ?_, rfl⟩, .inl rfl⟩
    exact allDigits_append.mpr ⟨allDigits_replicate_zero, run⟩
  · let whole := digits.take (leading.toNat + 1)
    refine ⟨whole ++ Layout.zeros (leading.toNat + 1 - whole.length),
      decimalLayout.fraction (digits.drop (leading.toNat + 1)), [], by simp [whole], ?_, ?_, ?_,
      .inl rfl⟩
    · simp [whole, some]
    · exact allDigits_append.mpr
        ⟨fun char member => run char (List.mem_of_mem_take member), allDigits_replicate_zero⟩
    · rw [Layout.fraction]
      split
      · exact .inr ⟨['0'], by simp [AllDigits], rfl⟩
      · exact .inr ⟨_, fun char member => run char (List.mem_of_mem_drop member), rfl⟩

theorem isUnsigned_exponentText {digits : List Char} (leading : Int) (some : digits ≠ [])
    (run : AllDigits digits) : IsUnsigned (Layout.exponentText digits leading) := by
  have exponent : IsExponent ('e' :: (if leading < 0 then '-' else '+') ::
      decimalDigits leading.natAbs) := by
    refine .inr ⟨_, _, ?_, allDigits_decimalDigits, rfl⟩
    split
    · exact .inl rfl
    · exact .inr rfl
  cases digits with
  | nil => exact absurd rfl some
  | cons first others =>
    cases others with
    | nil => exact ⟨[first], [], _, by simp [Layout.exponentText], by simp, run, .inl rfl, exponent⟩
    | cons next others =>
      obtain ⟨firstDigit, rest⟩ := List.forall_mem_cons.mp run
      exact ⟨[first], '.' :: next :: others, _, by simp [Layout.exponentText], by simp,
        by simpa [AllDigits] using firstDigit, .inr ⟨_, rest, rfl⟩, exponent⟩

theorem isUnsigned_render (decimal : Decimal) : IsUnsigned (decimalLayout.render decimal) := by
  rw [Layout.render]
  split
  · exact isUnsigned_positionalText _ (decimalDigits_ne_nil _) allDigits_decimalDigits
  · exact isUnsigned_exponentText _ (decimalDigits_ne_nil _) allDigits_decimalDigits

/-- A number is written as an unsigned one, after a minus or not. -/
theorem write_cases (number : Number) :
    ∃ text, IsUnsigned text ∧ (number.write = text ∨ number.write = '-' :: text) := by
  cases number with
  | integer value =>
    refine ⟨decimalDigits value.natAbs,
      isUnsigned_of_digits (decimalDigits_ne_nil _) allDigits_decimalDigits, ?_⟩
    rw [Number.write, signedDigits]
    split
    · exact .inr rfl
    · exact .inl rfl
  | decimal negative magnitude =>
    refine ⟨_, isUnsigned_render (Decimal.shortest magnitude), ?_⟩
    cases negative
    · exact .inl rfl
    · exact .inr rfl

theorem IsUnsigned.starts {text : List Char} (form : IsUnsigned text) :
    ∃ first others, text = first :: others ∧ first.isDigit = true := by
  obtain ⟨whole, fraction, exponent, rfl, some, run, _⟩ := form
  obtain ⟨first, others, rfl⟩ := List.exists_cons_of_ne_nil some
  exact ⟨first, others ++ (fraction ++ exponent), rfl, run first List.mem_cons_self⟩

theorem IsUnsigned.ne_minus {text : List Char} (form : IsUnsigned text) (rest : List Char) :
    text ≠ '-' :: rest := by
  rintro rfl
  obtain ⟨first, others, same, digit⟩ := form.starts
  rw [← (List.cons.inj same).1] at digit
  cases digit

/-- What a number comes back as from its own text, where it does. -/
def Number.reread (number : Number) : Option Number := (readNumber number.write).map Prod.fst

theorem readNumber_write (number : Number) :
    readNumber number.write = number.reread.map (·, []) := by
  have exhausted : ∀ found ∈ readNumber number.write, found.2 = [] := by
    intro ⟨value, left⟩ read
    obtain ⟨text, form, written | written⟩ := write_cases number
    · rw [written, readNumber_unsigned form.ne_minus] at read
      exact readUnsigned_exhausts form read
    · rw [written, readNumber_minus] at read
      exact readUnsigned_exhausts form read
  rw [Number.reread]
  cases read : readNumber number.write with
  | none => rfl
  | some found =>
    rw [← exhausted found read]
    rfl

/-- Inside a text a number comes back as it does alone. -/
theorem readNumber_write_append (number : Number) (ends : Ends rest) :
    readNumber (number.write ++ rest) = number.reread.map (·, rest) := by
  rw [readNumber_local ends, readNumber_write]
  cases number.reread <;> rfl

section Integers

theorem le_absorbed (word : Nat) (digits : List Char) :
    word ≤ digits.foldl (fun number digit => number * 10 + digitValue digit) word := by
  rw [foldl_digits]
  exact Nat.le_add_right_of_le (Nat.le_mul_of_pos_right word (Nat.pow_pos (by decide)))

theorem absorbed_of_fits {word : Nat} {digits : List Char}
    (fits : digits.foldl (fun number digit => number * 10 + digitValue digit) word < wordLimit) :
    absorbed word digits =
      (digits.foldl (fun number digit => number * 10 + digitValue digit) word, 0) := by
  induction digits generalizing word with
  | nil => rfl
  | cons digit digits ih =>
    rw [List.foldl_cons] at fits
    have first : word * 10 + digitValue digit < wordLimit :=
      Nat.lt_of_le_of_lt (le_absorbed _ digits) fits
    rw [absorbed, if_pos first, ih fits, List.foldl_cons]

/-- Only zero itself is written with a leading zero. -/
theorem eq_zero_of_leading_zero {number : Nat} {others : List Char}
    (leading : decimalDigits number = '0' :: others) : number = 0 := by
  induction number using Nat.strongRecOn generalizing others with
  | ind number ih =>
    rw [decimalDigits] at leading
    split at leading
    next small =>
      have single : ∀ digit < 10, Char.ofNat ('0'.toNat + digit) = '0' → digit = 0 := by decide
      exact single number small (List.cons.inj leading).1
    next large =>
      obtain ⟨first, more, shape⟩ := List.exists_cons_of_ne_nil (decimalDigits_ne_nil (number / 10))
      rw [shape, List.cons_append] at leading
      rw [(List.cons.inj leading).1] at shape
      have zero := ih (number / 10) (by omega) shape
      omega

theorem leads_decimalDigits (number : Nat) : Leads (decimalDigits number) := by
  refine ⟨decimalDigits_ne_nil number, ?_⟩
  intro others leading
  rw [eq_zero_of_leading_zero leading, decimalDigits, if_pos (by decide)] at leading
  exact (List.cons.inj leading).2.symm

theorem readWhole_decimalDigits (number : Nat) :
    readWhole (decimalDigits number) = some (decimalDigits number, []) := by
  have read := readWhole_run (leads_decimalDigits number) allDigits_decimalDigits stops_nil
  rwa [List.append_nil] at read

theorem readUnsigned_decimalDigits {negative : Bool} {number : Nat} (fits : number < wordLimit) :
    readUnsigned negative (decimalDigits number) = (wholeNumber negative number).map (·, []) := by
  have value : (decimalDigits number).foldl
      (fun number digit => number * 10 + digitValue digit) 0 = number := numberOf_decimalDigits number
  have taken : absorbed 0 (decimalDigits number) = (number, 0) := by
    rw [absorbed_of_fits (value.symm ▸ fits), value]
  simp [readUnsigned, readWhole_decimalDigits, readFraction, readExponent, valueOf, taken]

theorem reread_integer {value : Int} (lower : -signedLimit ≤ value) (upper : value < wordLimit) :
    (Number.integer value).reread = some (.integer value) := by
  have fits : value.natAbs < wordLimit := by
    simp only [signedLimit, wordLimit] at *
    omega
  rw [Number.reread, Number.write, signedDigits]
  split
  next negative =>
    have magnitude : 0 < value.natAbs ∧ value.natAbs ≤ signedLimit := by omega
    have back : -(value.natAbs : Int) = value := by omega
    rw [readNumber_minus, readUnsigned_decimalDigits fits, wholeNumber, if_pos rfl,
      if_pos magnitude, back]
    rfl
  next positive =>
    have back : (value.natAbs : Int) = value := by omega
    have unsigned (rest : List Char) : decimalDigits value.natAbs ≠ '-' :: rest := by
      intro same
      have digit : ('-').isDigit = true :=
        allDigits_decimalDigits '-' (same ▸ List.mem_cons_self)
      cases digit
    rw [readNumber_unsigned unsigned, readUnsigned_decimalDigits fits, wholeNumber,
      if_neg (by simp), back]
    rfl

end Integers

end EventStore.Json
