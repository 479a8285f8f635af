import EventStore.Decimal.Digits
import Mathlib.Algebra.Group.Nat.Defs
import Mathlib.Data.List.TakeWhile

/-! Runs of decimal digits in a text. A run is taken whole if the text stops being digits after
it, which is all that the readers of numbers, dates and payloads rely on. -/

namespace EventStore.Proofs.DigitRuns

def AllDigits (text : List Char) : Prop := ∀ char ∈ text, char.isDigit = true

/-- The text ends or goes on with something that is no digit. -/
def Stops (text : List Char) : Prop := ∀ char ∈ text.head?, char.isDigit = false

@[simp] theorem stops_nil : Stops [] := by simp [Stops]

@[simp] theorem stops_cons {char : Char} {text : List Char} :
    Stops (char :: text) ↔ char.isDigit = false := by
  simp [Stops]

theorem allDigits_append {left right : List Char} :
    AllDigits (left ++ right) ↔ AllDigits left ∧ AllDigits right := List.forall_mem_append

theorem allDigits_decimalDigits {number : Nat} : AllDigits (decimalDigits number) :=
  fun _ => isDigit_of_mem_decimalDigits

theorem allDigits_replicate_zero {count : Nat} : AllDigits (List.replicate count '0') := by
  intro char member
  rw [List.eq_of_mem_replicate member]
  rfl

/-- What follows a text is not taken for digits of it. -/
theorem takeWhile_append_stops {rest : List Char} (text : List Char) (stops : Stops rest) :
    (text ++ rest).takeWhile Char.isDigit = text.takeWhile Char.isDigit := by
  induction text with
  | nil =>
    cases rest with
    | nil => rfl
    | cons char rest => simp [stops_cons.mp stops]
  | cons char text ih => simp [List.takeWhile_cons, ih]

theorem dropWhile_append_stops {rest : List Char} (text : List Char) (stops : Stops rest) :
    (text ++ rest).dropWhile Char.isDigit = text.dropWhile Char.isDigit ++ rest := by
  induction text with
  | nil =>
    cases rest with
    | nil => rfl
    | cons char rest => simp [stops_cons.mp stops]
  | cons char text ih =>
    rw [List.cons_append, List.dropWhile_cons, List.dropWhile_cons, ih]
    split <;> rfl

theorem takeWhile_run {digits rest : List Char} (run : AllDigits digits) (stops : Stops rest) :
    (digits ++ rest).takeWhile Char.isDigit = digits := by
  rw [takeWhile_append_stops digits stops, List.takeWhile_eq_self_iff.mpr run]

theorem dropWhile_run {digits rest : List Char} (run : AllDigits digits) (stops : Stops rest) :
    (digits ++ rest).dropWhile Char.isDigit = rest := by
  rw [dropWhile_append_stops digits stops, List.dropWhile_eq_nil_iff.mpr run, List.nil_append]

theorem numberOf_replicate_zero (count : Nat) (digits : List Char) :
    numberOf (List.replicate count '0' ++ digits) = numberOf digits := by
  induction count with
  | zero => rfl
  | succ count ih =>
    rw [List.replicate_succ, List.cons_append, ← ih]
    rfl

/-- Digits that follow a word shift it by as many places. -/
theorem foldl_digits (word : Nat) (digits : List Char) :
    digits.foldl (fun number digit => number * 10 + digitValue digit) word =
      word * 10 ^ digits.length + numberOf digits := by
  induction digits generalizing word with
  | nil => simp [numberOf]
  | cons digit digits ih =>
    rw [numberOf, List.foldl_cons, List.foldl_cons, ih, ih (0 * 10 + _), List.length_cons,
      Nat.pow_succ, Nat.zero_mul, Nat.zero_add, Nat.add_mul, Nat.mul_assoc, Nat.mul_comm 10,
      Nat.add_assoc]

theorem numberOf_append (left right : List Char) :
    numberOf (left ++ right) = numberOf left * 10 ^ right.length + numberOf right := by
  rw [numberOf, List.foldl_append, foldl_digits, ← numberOf]

theorem numberOf_lt {digits : List Char} (run : AllDigits digits) :
    numberOf digits < 10 ^ digits.length := by
  induction digits with
  | nil => exact Nat.one_pos
  | cons digit digits ih =>
    obtain ⟨first, others⟩ := List.forall_mem_cons.mp run
    have rest := ih others
    have single : digitValue digit ≤ 9 := by
      have bounds : 48 ≤ digit.val ∧ digit.val ≤ 57 := by simpa [Char.isDigit] using first
      have upper : digit.toNat ≤ 57 := UInt32.le_iff_toNat_le.mp bounds.2
      have zero : '0'.toNat = 48 := rfl
      rw [digitValue, zero]
      omega
    have shifted := Nat.mul_le_mul_right (10 ^ digits.length) single
    rw [← List.singleton_append, numberOf_append, List.length_append, Nat.pow_add]
    simp only [numberOf, List.foldl_cons, List.foldl_nil, List.length_singleton, Nat.zero_mul,
      Nat.zero_add] at rest ⊢
    omega

theorem length_decimalDigits_le {number width : Nat} (small : number < Nat.pow 10 (width + 1)) :
    (decimalDigits number).length ≤ width + 1 := by
  induction width generalizing number with
  | zero =>
    rw [decimalDigits, if_pos small]
    exact Nat.le_refl 1
  | succ width ih =>
    rw [decimalDigits]
    split
    · exact Nat.succ_pos _
    · have shorter : number / 10 < Nat.pow 10 (width + 1) := Nat.div_lt_of_lt_mul
        (Nat.lt_of_lt_of_eq small (Nat.mul_comm _ _))
      rw [List.length_append]
      exact Nat.succ_le_succ (ih shorter)

end EventStore.Proofs.DigitRuns
