import EventStore.Json.Reader
import EventStore.Json.Writer
import Mathlib.Tactic.SplitIfs

/-! A string written into JSON text reads back, whatever follows its closing quote. One lemma says
what reading does with a single escaped character, and the string goes by its characters. -/

namespace EventStore.Json

/-- A control is named by two hexadecimal digits after two zeros. -/
theorem readCodePoint_control {char : Char} (control : char.toNat < 0x20) (rest : List Char) :
    readCodePoint ('0' :: '0' :: Text.hexDigit (char.toNat / 16) ::
      Text.hexDigit (char.toNat % 16) :: rest) = some (char, rest) := by
  have leading : char.toNat / 16 < 16 := by omega
  have final : char.toNat % 16 < 16 := Nat.mod_lt _ (by decide)
  have zero : Text.hexValue '0' = some 0 := by decide
  have unit : Text.ofDigits 16 [0, 0, char.toNat / 16, char.toNat % 16] = char.toNat := by
    simp only [Text.ofDigits, List.foldl_cons, List.foldl_nil]
    omega
  have read : readHexFour ('0' :: '0' :: Text.hexDigit (char.toNat / 16) ::
      Text.hexDigit (char.toNat % 16) :: rest) = some (char.toNat, rest) := by
    simp [readHexFour, zero, Text.hexValue_hexDigit leading, Text.hexValue_hexDigit final, unit]
  have trail : isTrailSurrogate char.toNat = false := by
    simp only [isTrailSurrogate, Bool.and_eq_false_iff, decide_eq_false_iff_not]
    omega
  have lead : isLeadSurrogate char.toNat = false := by
    simp only [isLeadSurrogate, Bool.and_eq_false_iff, decide_eq_false_iff_not]
    omega
  simp [readCodePoint, read, trail, lead]

theorem readStringBody_escape {fuel : Nat} {char : Char} {text rest : List Char}
    (escape : readEscape text = some (char, rest)) :
    readStringBody (fuel + 1) ('\\' :: text) =
      (readStringBody fuel rest).map fun (chars, rest) => (char :: chars, rest) := by
  rw [readStringBody, escape, Option.bind_eq_bind, Option.bind_some]
  dsimp only
  cases readStringBody fuel rest <;> rfl

theorem readStringBody_plain {fuel : Nat} {char : Char} {rest : List Char} (quote : char ≠ '"')
    (backslash : char ≠ '\\') (printable : ¬ char.toNat < 0x20) :
    readStringBody (fuel + 1) (char :: rest) =
      (readStringBody fuel rest).map fun (chars, rest) => (char :: chars, rest) := by
  rw [readStringBody, if_neg printable]
  · cases readStringBody fuel rest <;> rfl
  · exact quote
  · exact backslash

/-- A character is taken off the text in the form it was written in. -/
theorem readStringBody_escapedChar (fuel : Nat) (char : Char) (rest : List Char) :
    readStringBody (fuel + 1) (escapedChar char ++ rest) =
      (readStringBody fuel rest).map fun (chars, rest) => (char :: chars, rest) := by
  unfold escapedChar
  split_ifs with quote backslash backspace feed newline carriage tab control
  · subst quote
    exact readStringBody_escape rfl
  · subst backslash
    exact readStringBody_escape rfl
  · subst backspace
    exact readStringBody_escape rfl
  · subst feed
    exact readStringBody_escape rfl
  · subst newline
    exact readStringBody_escape rfl
  · subst carriage
    exact readStringBody_escape rfl
  · subst tab
    exact readStringBody_escape rfl
  · exact readStringBody_escape (readCodePoint_control control rest)
  · exact readStringBody_plain quote backslash control

theorem readStringBody_flatMap {fuel : Nat} {chars rest : List Char} (enough : chars.length < fuel) :
    readStringBody fuel (chars.flatMap escapedChar ++ '"' :: rest) = some (chars, rest) := by
  induction chars generalizing fuel with
  | nil =>
    obtain ⟨fuel, rfl⟩ := Nat.exists_eq_add_of_lt enough
    rfl
  | cons char chars ih =>
    cases fuel with
    | zero => exact absurd enough (Nat.not_lt_zero _)
    | succ fuel =>
      rw [List.flatMap_cons, List.append_assoc, readStringBody_escapedChar,
        ih (Nat.lt_of_succ_lt_succ enough)]
      rfl

theorem length_le_flatMap_escapedChar (chars : List Char) :
    chars.length ≤ (chars.flatMap escapedChar).length := by
  induction chars with
  | nil => exact Nat.le_refl 0
  | cons char chars ih =>
    have some : 0 < (escapedChar char).length := by
      unfold escapedChar
      split_ifs <;> simp
    rw [List.flatMap_cons, List.length_append, List.length_cons]
    omega

theorem readString_writeString (text : String) (rest : List Char) :
    readString (writeString text ++ rest) = some (text, rest) := by
  have shape : writeString text ++ rest =
      '"' :: (text.toList.flatMap escapedChar ++ '"' :: rest) := by
    simp [writeString]
  have enough : text.toList.length <
      (text.toList.flatMap escapedChar ++ '"' :: rest).length := by
    have longer := length_le_flatMap_escapedChar text.toList
    rw [List.length_append, List.length_cons]
    omega
  rw [shape, readString, readStringBody_flatMap enough]
  simp

end EventStore.Json
