import EventStore.Uuid

/-! An identifier that was written reads back. Its groups are cut where they were joined, and the
text starts with a digit, so none of the other forms is mistaken for it. -/

namespace EventStore.Uuid

theorem hexDigit_hexDigit (digit : Fin 16) : hexDigit (Text.hexDigit digit.val) = some digit := by
  rw [hexDigit, Text.hexValue_hexDigit digit.isLt]
  simp [digit.isLt]

theorem mapM_hexDigit (digits : List (Fin 16)) :
    (digits.map fun digit => Text.hexDigit digit.val).mapM hexDigit = some digits := by
  induction digits with
  | nil => rfl
  | cons digit digits ih => simp [hexDigit_hexDigit, ih]

theorem readPlain_digits (uuid : Uuid) :
    readPlain (uuid.digits.map fun digit => Text.hexDigit digit.val) = some uuid := by
  rw [readPlain, mapM_hexDigit, Option.bind_some, ofDigits, dif_pos uuid.length_digits]

/-- How many digits some groups hold. -/
def digitCount : List Nat → Nat
  | [] => 0
  | length :: lengths => length + digitCount lengths

theorem mem_hyphenated {lengths : List Nat} {digits : List Char} {char : Char}
    (member : char ∈ hyphenated lengths digits) : char = '-' ∨ char ∈ digits := by
  fun_induction hyphenated lengths digits with
  | case1 => cases member
  | case2 => exact .inr member
  | case3 length lengths digits further ih =>
    rcases List.mem_append.mp member with first | later
    · exact .inr (List.mem_of_mem_take first)
    · rcases List.mem_cons.mp later with hyphen | rest
      · exact .inl hyphen
      · exact (ih rest).imp_right List.mem_of_mem_drop

theorem length_hyphenated {lengths : List Nat} (digits : List Char) (grouped : lengths ≠ []) :
    (hyphenated lengths digits).length + 1 = digits.length + lengths.length := by
  fun_induction hyphenated lengths digits with
  | case1 => exact absurd rfl grouped
  | case2 => rfl
  | case3 length lengths digits further ih =>
    have after := ih further
    simp only [List.length_append, List.length_cons, List.length_take, List.length_drop] at after ⊢
    omega

theorem length_write (uuid : Uuid) : uuid.write.length = 36 := by
  have total : uuid.write.length + 1 = _ := length_hyphenated _ (by decide)
  rw [List.length_map, uuid.length_digits] at total
  exact Nat.succ.inj total

/-- Hyphens are found where they were put if the groups take up all of the digits. -/
theorem unhyphenated_hyphenated {lengths : List Nat} {digits : List Char} (grouped : lengths ≠ [])
    (whole : digits.length = digitCount lengths) :
    unhyphenated lengths (hyphenated lengths digits) = some digits := by
  fun_induction hyphenated lengths digits with
  | case1 => exact absurd rfl grouped
  | case2 length digits =>
    have exactly : digits.length = length := by simpa [digitCount] using whole
    rw [unhyphenated, if_pos exactly]
  | case3 length lengths digits further ih =>
    have enough : length ≤ digits.length := by
      rw [whole, digitCount]
      exact Nat.le_add_right _ _
    have rest : (digits.drop length).length = digitCount lengths := by
      rw [List.length_drop, whole, digitCount, Nat.add_sub_cancel_left]
    have first : (digits.take length).length = length := List.length_take_of_le enough
    have after := ih further rest
    have cut : (digits.take length ++ '-' :: hyphenated lengths (digits.drop length)).drop length =
        '-' :: hyphenated lengths (digits.drop length) := List.drop_left' first
    cases lengths with
    | nil => exact absurd rfl further
    | cons next lengths =>
      rw [unhyphenated, cut]
      simp only [after, Option.map_some, List.take_left' first, List.take_append_drop]
      simp

theorem readHyphenated_write (uuid : Uuid) : readHyphenated uuid.write = some uuid := by
  have whole : (uuid.digits.map fun digit => Text.hexDigit digit.val).length = digitCount groups := by
    rw [List.length_map, uuid.length_digits]
    rfl
  rw [readHyphenated, write, unhyphenated_hyphenated (by decide) whole, Option.bind_some,
    readPlain_digits]

/-- A digit opens neither a brace nor the mark of a name. -/
theorem hexDigit_plain (digit : Fin 16) :
    Text.hexDigit digit.val ≠ '\x7b' ∧ (Text.hexDigit digit.val).toLower ≠ 'u' := by
  revert digit
  decide

theorem parse_format (uuid : Uuid) : parse (format uuid) = some uuid := by
  rw [parse, format, String.toList_ofList]
  have hyphens := readHyphenated_write uuid
  obtain ⟨first, others, digits⟩ : ∃ first others, uuid.digits = first :: others :=
    List.exists_cons_of_ne_nil fun none => by simpa [none] using uuid.length_digits
  obtain ⟨noBrace, noName⟩ := hexDigit_plain first
  have length := length_write uuid
  have starts : ∃ rest, uuid.write = Text.hexDigit first.val :: rest := by
    rw [write, digits, groups, hyphenated]
    · exact ⟨_, rfl⟩
    · simp
  obtain ⟨rest, starts⟩ := starts
  rw [starts] at hyphens length ⊢
  unfold read
  split
  next opened => exact absurd (List.cons.inj opened).1 noBrace
  next =>
    have noMark : ((Text.hexDigit first.val :: rest).take nameMark.length).map Char.toLower ≠
        nameMark := by
      intro same
      exact noName (List.cons.inj same).1
    rw [if_neg noMark, if_neg (by simp [length]), hyphens]

end EventStore.Uuid
