/-! Natural numbers in decimal digits. Writing uses the fewest digits there are; reading takes
digits in any number, so whatever was written reads back. -/

namespace EventStore

/-- The digits of a number, most significant first. -/
def decimalDigits (number : Nat) : List Char :=
  if number < 10 then [Char.ofNat ('0'.toNat + number)]
  else decimalDigits (number / 10) ++ [Char.ofNat ('0'.toNat + number % 10)]

/-- The digits of a number after a minus where it is negative. -/
def signedDigits (number : Int) : List Char :=
  if number < 0 then '-' :: decimalDigits number.natAbs else decimalDigits number.natAbs

def digitValue (char : Char) : Nat := char.toNat - '0'.toNat

def numberOf (digits : List Char) : Nat :=
  digits.foldl (fun number digit => number * 10 + digitValue digit) 0

private theorem digit_small {digit : Nat} (small : digit < 10) :
    (Char.ofNat ('0'.toNat + digit)).isDigit ∧
      digitValue (Char.ofNat ('0'.toNat + digit)) = digit := by
  revert digit
  decide

theorem isDigit_of_mem_decimalDigits {number : Nat} {char : Char}
    (member : char ∈ decimalDigits number) : char.isDigit := by
  fun_induction decimalDigits number with
  | case1 number small =>
    rw [List.mem_singleton] at member
    exact member ▸ (digit_small small).1
  | case2 number _ ih =>
    rcases List.mem_append.mp member with leading | final
    · exact ih leading
    · rw [List.mem_singleton] at final
      exact final ▸ (digit_small (Nat.mod_lt number (by decide))).1

theorem decimalDigits_ne_nil (number : Nat) : decimalDigits number ≠ [] := by
  unfold decimalDigits
  split <;> simp

@[simp] theorem numberOf_decimalDigits (number : Nat) :
    numberOf (decimalDigits number) = number := by
  fun_induction decimalDigits number with
  | case1 number small => simpa [numberOf] using (digit_small small).2
  | case2 number _ ih =>
    have final := (digit_small (Nat.mod_lt number (show 0 < 10 by decide))).2
    rw [numberOf, List.foldl_append, ← numberOf, ih]
    simp only [List.foldl_cons, List.foldl_nil, final]
    omega

end EventStore
