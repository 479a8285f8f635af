import EventStore.Proofs.DecimalScaling
import EventStore.Proofs.JsonNumbers
import EventStore.Proofs.ShortestDecimals

/-! Every number that is written can be read. Reading takes no more from a text than the number it
stands for, and the shortest decimal of a magnitude is in range when it is scaled again. -/

namespace EventStore.Json
open Proofs.DigitRuns

section Digits

theorem absorbed_le (word : Nat) (digits : List Char) :
    (absorbed word digits).2 ≤ digits.length ∧
      (absorbed word digits).1 * 10 ^ (absorbed word digits).2 ≤
        word * 10 ^ digits.length + numberOf digits := by
  induction digits generalizing word with
  | nil => simp [absorbed]
  | cons digit digits ih =>
    rw [absorbed]
    split
    · have longer := ih (word * 10 + digitValue digit)
      rw [← foldl_digits] at longer ⊢
      exact ⟨Nat.le_succ_of_le longer.1, longer.2⟩
    · exact ⟨Nat.le_refl _, Nat.le_add_right _ _⟩

theorem absorbed_lt {word : Nat} (fits : word < wordLimit) (digits : List Char) :
    (absorbed word digits).1 < wordLimit := by
  induction digits generalizing word with
  | nil => exact fits
  | cons digit digits ih =>
    rw [absorbed]
    split
    next longer => exact ih longer
    next => exact fits

end Digits

/-- Parts with a point or an exponent make a decimal, if the number they stand for is readable. -/
theorem exists_valueOf (negative : Bool) {whole fraction : List Char} {power : Option Int}
    (fits : numberOf whole < wordLimit) (pointed : fraction ≠ [] ∨ power ≠ none)
    (bounded : (numberOf (whole ++ fraction) : ℚ) * 10 ^ (power.getD 0 - fraction.length) ≤
      readable) :
    ∃ number, valueOf negative whole fraction power = some number := by
  have taken : absorbed 0 whole = (numberOf whole, 0) := absorbed_of_fits fits
  obtain ⟨few, least⟩ := absorbed_le (numberOf whole) fraction
  have small := absorbed_lt fits fraction
  rw [← numberOf_append] at least
  cases rest : absorbed (numberOf whole) fraction with
  | mk word ignored =>
    rw [rest] at few least small
    dsimp only at few least small
    have cut : (word : ℚ) * 10 ^ ignored ≤ numberOf (whole ++ fraction) := by exact_mod_cast least
    have scale : ((0 : Nat) : Int) - (fraction.length - ignored : Nat) + power.getD 0 =
        ignored + (power.getD 0 - fraction.length) := by omega
    have below : (word : ℚ) *
        10 ^ (((0 : Nat) : Int) - (fraction.length - ignored : Nat) + power.getD 0) ≤ readable := by
      rw [scale, zpow_add₀ (by norm_num), zpow_natCast, ← mul_assoc]
      exact (mul_le_mul_of_nonneg_right cut (by positivity)).trans bounded
    obtain ⟨leading, magnitude, found, scaled⟩ := scaled_nearest small below
    have notWhole : ¬ (fraction = [] ∧ power = none) := fun whole => pointed.elim
      (fun some => some whole.1) (fun some => some whole.2)
    refine ⟨.decimal negative magnitude, ?_⟩
    simp only [valueOf, taken, rest, found, Option.bind_eq_bind, Option.bind_some, scaled]
    simp [notWhole]

section Texts

theorem readFraction_run {digits later : List Char} (some : digits ≠ []) (run : AllDigits digits)
    (stops : Stops later) : readFraction ('.' :: digits ++ later) = .some (digits, later) := by
  simp only [List.cons_append, readFraction, takeWhile_run run stops, dropWhile_run run stops]
  rw [if_neg (by simpa using some)]

variable {negative : Bool}

theorem readUnsigned_of_parts {text afterWhole afterFraction whole fraction : List Char}
    {power : Option Int} {number : Number} (first : readWhole text = some (whole, afterWhole))
    (second : readFraction afterWhole = some (fraction, afterFraction))
    (third : readExponent afterFraction = some (power, []))
    (value : valueOf negative whole fraction power = some number) :
    readUnsigned negative text = some (number, []) := by
  simp [readUnsigned, first, second, third, value]

theorem exists_readUnsigned_pointed {whole fraction : List Char} (leads : Leads whole)
    (runWhole : AllDigits whole) (short : whole.length ≤ 16) (some : fraction ≠ [])
    (runFraction : AllDigits fraction) :
    ∃ number, readUnsigned negative (whole ++ '.' :: fraction) = .some number := by
  have size : numberOf whole < 10 ^ 16 :=
    (numberOf_lt runWhole).trans_le (Nat.pow_le_pow_right (by decide) short)
  have digits : (numberOf (whole ++ fraction) : ℚ) ≤ 10 ^ 16 * 10 ^ fraction.length := by
    have all := numberOf_lt (allDigits_append.mpr ⟨runWhole, runFraction⟩)
    rw [List.length_append, Nat.pow_add] at all
    have shorter := Nat.mul_le_mul_right (10 ^ fraction.length)
      (Nat.pow_le_pow_right (show 0 < 10 by decide) short)
    exact_mod_cast (all.trans_le shorter).le
  have bounded : (numberOf (whole ++ fraction) : ℚ) *
      10 ^ ((none : Option Int).getD 0 - fraction.length) ≤ readable := by
    rw [Option.getD_none, zero_sub, zpow_neg, zpow_natCast, ← div_eq_mul_inv]
    exact ((div_le_iff₀ (by positivity)).mpr digits).trans ten_pow_le_readable
  have fits : numberOf whole < wordLimit := size.trans (by decide)
  obtain ⟨number, value⟩ := exists_valueOf negative fits (.inl some) bounded
  have afterFraction := readFraction_run some runFraction stops_nil
  rw [List.append_nil] at afterFraction
  exact ⟨(number, []), readUnsigned_of_parts (readWhole_run leads runWhole (stops_cons.mpr rfl))
    afterFraction rfl value⟩

theorem readPower_decimalDigits (number : Nat) :
    readPower (decimalDigits number) = some (number, []) := by
  have run : AllDigits (decimalDigits number) := allDigits_decimalDigits
  have takes := takeWhile_run run stops_nil
  have drops := dropWhile_run run stops_nil
  rw [List.append_nil] at takes drops
  simp [readPower, takes, drops, decimalDigits_ne_nil]

theorem readExponent_signed (power : Int) :
    readExponent ('e' :: (if power < 0 then '-' else '+') :: decimalDigits power.natAbs) =
      some (some power, []) := by
  rw [readExponent_cons, if_pos (.inl rfl)]
  split
  next negative =>
    have back : -(power.natAbs : Int) = power := by omega
    simp only [readSignedPower, readPower_decimalDigits, Option.map_some, back]
  next positive =>
    have back : (power.natAbs : Int) = power := by omega
    simp only [readSignedPower, readPower_decimalDigits, Option.map_some, back]

theorem exists_readUnsigned_exponentText {digits : List Char} {leading : Int} (some : digits ≠ [])
    (run : AllDigits digits)
    (bounded : (numberOf digits : ℚ) * 10 ^ (leading - (digits.length - 1)) ≤ readable) :
    ∃ number, readUnsigned negative (Layout.exponentText digits leading) = .some number := by
  obtain ⟨first, others, rfl⟩ := List.exists_cons_of_ne_nil some
  let exponent := 'e' :: (if leading < 0 then '-' else '+') :: decimalDigits leading.natAbs
  have power : readExponent exponent = .some (.some leading, []) := readExponent_signed leading
  obtain ⟨firstDigit, othersRun⟩ := List.forall_mem_cons.mp run
  have single : AllDigits [first] := by simpa [AllDigits] using firstDigit
  have fits : numberOf [first] < wordLimit := (numberOf_lt single).trans (by simp [wordLimit])
  have length : leading - ((first :: others).length - 1 : Int) =
      (Option.some leading).getD 0 - others.length := by simp
  rw [length] at bounded
  obtain ⟨number, value⟩ :=
    @exists_valueOf negative [first] others (.some leading) fits (.inr (by simp)) bounded
  refine ⟨(number, []), ?_⟩
  cases others with
  | nil =>
    have text : Layout.exponentText [first] leading = [first] ++ exponent := rfl
    rw [text]
    exact readUnsigned_of_parts (readWhole_run (leads_singleton first) single (stops_cons.mpr rfl))
      rfl power value
  | cons next others =>
    have text : Layout.exponentText (first :: next :: others) leading =
        [first] ++ ('.' :: (next :: others) ++ exponent) := rfl
    rw [text]
    exact readUnsigned_of_parts (readWhole_run (leads_singleton first) single (stops_cons.mpr rfl))
      (readFraction_run (by simp) othersRun (stops_cons.mpr rfl)) power value

theorem exists_fraction {digits : List Char} (run : AllDigits digits) :
    ∃ fraction, fraction ≠ [] ∧ AllDigits fraction ∧
      decimalLayout.fraction digits = '.' :: fraction := by
  rw [Layout.fraction]
  split
  · exact ⟨['0'], by simp, by simp [AllDigits], rfl⟩
  next some => exact ⟨digits, by simpa using some, run, rfl⟩

theorem exists_readUnsigned_positionalText {digits : List Char} {leading : Int}
    (small : leading ≤ 15) (some : digits ≠ []) (run : AllDigits digits)
    (proper : ∀ others, digits ≠ '0' :: others) :
    ∃ number, readUnsigned negative (decimalLayout.positionalText digits leading) = .some number := by
  rw [Layout.positionalText]
  split
  · have zero : AllDigits ['0'] := by simp [AllDigits]
    have rest : AllDigits (Layout.zeros (-leading - 1).toNat ++ digits) :=
      allDigits_append.mpr ⟨allDigits_replicate_zero, run⟩
    exact exists_readUnsigned_pointed (leads_singleton '0') zero (by simp) (by simp [some]) rest
  · let taken := digits.take (leading.toNat + 1)
    let whole := taken ++ Layout.zeros (leading.toNat + 1 - taken.length)
    have leads : Leads whole := by
      obtain ⟨first, others, rfl⟩ := List.exists_cons_of_ne_nil some
      refine ⟨by simp [whole, taken], ?_⟩
      intro after same
      exact absurd (congrArg (· :: others) (List.cons.inj same).1) (proper others)
    have runWhole : AllDigits whole := allDigits_append.mpr
      ⟨fun char member => run char (List.mem_of_mem_take member), allDigits_replicate_zero⟩
    have short : whole.length ≤ 16 := by
      simp only [whole, taken, Layout.zeros, List.length_append, List.length_take,
        List.length_replicate]
      omega
    obtain ⟨fraction, someFraction, runFraction, text⟩ :=
      @exists_fraction (digits.drop (leading.toNat + 1))
        fun char member => run char (List.mem_of_mem_drop member)
    rw [text]
    exact exists_readUnsigned_pointed leads runWhole short someFraction runFraction

/-- A decimal is read in either layout, where the shortest digits are no zero or zero alone. -/
theorem exists_readUnsigned_render {decimal : Decimal}
    (zero : decimal.digits = 0 → decimal.exponent = 0) (bounded : decimal.toRat ≤ readable) :
    ∃ number, readUnsigned negative (decimalLayout.render decimal) = some number := by
  have run : AllDigits (decimalDigits decimal.digits) := allDigits_decimalDigits
  have some := decimalDigits_ne_nil decimal.digits
  by_cases none : decimal.digits = 0
  · obtain ⟨digits, exponent⟩ := decimal
    obtain rfl : digits = 0 := none
    obtain rfl : exponent = 0 := zero rfl
    have text : decimalLayout.render ⟨0, 0⟩ = ['0'] ++ '.' :: ['0'] := by decide +kernel
    have single : AllDigits ['0'] := by simp [AllDigits]
    rw [text]
    exact exists_readUnsigned_pointed (leads_singleton '0') single (by simp) (by simp) single
  · have proper (others : List Char) : decimalDigits decimal.digits ≠ '0' :: others :=
      fun leading => none (eq_zero_of_leading_zero leading)
    rw [Layout.render]
    split
    next positional =>
      have small := (Bool.and_eq_true_iff.mp positional).2
      exact exists_readUnsigned_positionalText (of_decide_eq_true small) some run proper
    next =>
      apply exists_readUnsigned_exponentText some run
      rw [numberOf_decimalDigits]
      refine le_trans (le_of_eq ?_) bounded
      rw [Decimal.toRat]
      congr 2
      omega

end Texts

theorem reread_decimal (negative : Bool) (magnitude : Binary64) :
    (Number.decimal negative magnitude).reread =
      (readUnsigned negative (decimalLayout.render (Decimal.shortest magnitude))).map Prod.fst := by
  rw [Number.reread, Number.write]
  cases negative with
  | true => exact congrArg _ (readNumber_minus _)
  | false => exact congrArg _ (readNumber_unsigned (isUnsigned_render _).ne_minus)

namespace Number

/-- A number as values hold it: an integer of 64 bits, signed or not, or a magnitude of double
precision. -/
def Representable : Number → Prop
  | .integer value => -signedLimit ≤ value ∧ value < wordLimit
  | .decimal _ magnitude =>
    magnitude.significand < Binary64.significandLimit ∧
      Binary64.leastExponent ≤ magnitude.exponent ∧
      magnitude.exponent ≤ Binary64.greatestExponent ∧
      (Binary64.leastNormal ≤ magnitude.significand ∨
        magnitude.exponent = Binary64.leastExponent)

theorem exists_reread_of_readable {negative : Bool} {magnitude : Binary64}
    (bounded : (magnitude.significand + 1 / 2) * 2 ^ magnitude.exponent ≤ readable) :
    ∃ back, (Number.decimal negative magnitude).reread = some back := by
  obtain ⟨found, read⟩ := @exists_readUnsigned_render negative _ Decimal.exponent_shortest
    ((Decimal.toRat_shortest_le magnitude).trans bounded)
  exact ⟨found.1, by rw [reread_decimal, read]; rfl⟩

/-- The two greatest magnitudes are too close to the end of the range for any bound on what
rounding adds. -/
theorem exists_reread_greatest {negative : Bool} {significand : Nat}
    (large : Binary64.significandLimit ≤ significand + 2)
    (short : significand < Binary64.significandLimit) :
    ∃ back, (Number.decimal negative ⟨significand, Binary64.greatestExponent⟩).reread = some back := by
  have greatest : significand = 9007199254740991 ∨ significand = 9007199254740990 := by
    rw [Binary64.significandLimit] at large short
    omega
  apply Option.isSome_iff_exists.mp
  rcases greatest with rfl | rfl
  all_goals
    cases negative
    all_goals decide +kernel

theorem readable_of_not_greatest {significand : Nat} {exponent : Int}
    (short : significand < Binary64.significandLimit)
    (range : exponent ≤ Binary64.greatestExponent)
    (small : exponent < Binary64.greatestExponent ∨ significand + 2 < Binary64.significandLimit) :
    ((significand : ℚ) + 1 / 2) * 2 ^ exponent ≤ readable := by
  have limit : ((Binary64.significandLimit : Nat) : ℚ) = 2 ^ 53 := by
    norm_num [Binary64.significandLimit]
  have unit : (0 : ℚ) < 2 ^ Binary64.greatestExponent := by positivity
  rw [readable]
  rcases small with below | below
  · have size : (significand : ℚ) + 1 / 2 ≤ 2 ^ 53 := by
      have half : (significand : ℚ) + 1 ≤ 2 ^ 53 := by
        rw [← limit]
        exact_mod_cast short
      linarith
    have halved : (2 : ℚ) ^ exponent ≤ 2 ^ Binary64.greatestExponent / 2 := by
      rw [div_eq_mul_inv, ← zpow_sub_one₀ two_ne_zero]
      exact zpow_le_zpow_right₀ one_le_two (by omega)
    calc ((significand : ℚ) + 1 / 2) * 2 ^ exponent
      _ ≤ 2 ^ 53 * (2 ^ Binary64.greatestExponent / 2) :=
        mul_le_mul size halved (by positivity) (by positivity)
      _ ≤ (2 ^ 53 - 5 / 2) * 2 ^ Binary64.greatestExponent := by linarith
  · have size : (significand : ℚ) + 1 / 2 ≤ 2 ^ 53 - 5 / 2 := by
      have three : (significand : ℚ) + 3 ≤ 2 ^ 53 := by
        rw [← limit]
        exact_mod_cast below
      linarith
    exact mul_le_mul size (zpow_le_zpow_right₀ one_le_two range) (by positivity) (by norm_num)

/-- Whatever number a value holds, its text is read as a number again. -/
theorem Representable.exists_reread {number : Number} (representable : number.Representable) :
    ∃ back, number.reread = some back := by
  cases number with
  | integer value => exact ⟨_, reread_integer representable.1 representable.2⟩
  | decimal negative magnitude =>
    obtain ⟨significand, exponent⟩ := magnitude
    obtain ⟨short, _, range, _⟩ := representable
    dsimp only at short range
    by_cases last : exponent = Binary64.greatestExponent ∧
        Binary64.significandLimit ≤ significand + 2
    · obtain ⟨rfl, large⟩ := last
      exact exists_reread_greatest large short
    · have small : exponent < Binary64.greatestExponent ∨
          significand + 2 < Binary64.significandLimit := by omega
      exact exists_reread_of_readable (readable_of_not_greatest short range small)

end Number

end EventStore.Json
