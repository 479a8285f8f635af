import EventStore.Storage.Record
import EventStore.Proofs.UuidText
import Mathlib.Tactic.SplitIfs

/-! The texts that records are made of hold no null character unless the caller put one there:
numbers, instants, identifiers and JSON are written in printable characters. -/

namespace EventStore.Proofs.StoredTexts

/-- Nothing in the text would end a statement that it stands in. -/
def Clear (text : List Char) : Prop := '\x00' ∉ text

instance (text : List Char) : Decidable (Clear text) := inferInstanceAs (Decidable (_ ∉ _))

@[simp] theorem clear_nil : Clear [] := by simp [Clear]

@[simp] theorem clear_cons {char : Char} {text : List Char} :
    Clear (char :: text) ↔ char ≠ '\x00' ∧ Clear text := by
  simp [Clear, eq_comm]

@[simp] theorem clear_append {left right : List Char} :
    Clear (left ++ right) ↔ Clear left ∧ Clear right := by
  simp [Clear]

@[simp] theorem clear_replicate_zero {count : Nat} : Clear (List.replicate count '0') := by
  simp [Clear]

@[simp] theorem clear_decimalDigits {number : Nat} : Clear (decimalDigits number) := by
  intro member
  have digit := isDigit_of_mem_decimalDigits member
  revert digit
  decide

@[simp] theorem clear_signedDigits {number : Int} : Clear (signedDigits number) := by
  rw [signedDigits]
  split <;> simp

theorem Clear.of_subset {text larger : List Char} (clear : Clear larger) (inside : text ⊆ larger) :
    Clear text := fun member => clear (inside member)

theorem clear_positionalText {layout : Layout} {digits : List Char} (leading : Int)
    (clear : Clear digits) : Clear (layout.positionalText digits leading) := by
  rw [Layout.positionalText]
  split
  · simp [Layout.zeros, clear]
  · have whole := clear.of_subset (List.take_subset (leading.toNat + 1) digits)
    have rest := clear.of_subset (List.drop_subset (leading.toNat + 1) digits)
    simp only [clear_append, Layout.zeros, clear_replicate_zero, whole, true_and, Layout.fraction]
    split
    · split <;> simp
    · exact clear_cons.mpr ⟨by decide, rest⟩

theorem clear_exponentText {digits : List Char} (leading : Int) (clear : Clear digits) :
    Clear (Layout.exponentText digits leading) := by
  have sign : (if leading < 0 then '-' else '+') ≠ '\x00' := by
    split <;> decide
  unfold Layout.exponentText
  split <;> simp_all

theorem clear_render {layout : Layout} {decimal : Decimal} : Clear (layout.render decimal) := by
  rw [Layout.render]
  split
  · exact clear_positionalText _ clear_decimalDigits
  · exact clear_exponentText _ clear_decimalDigits

theorem clear_number {number : Json.Number} : Clear number.write := by
  cases number with
  | integer value => exact clear_signedDigits
  | decimal negative magnitude =>
    have digits : Clear (Json.decimalLayout.render (Decimal.shortest magnitude)) := clear_render
    cases negative <;> simp [Json.Number.write, digits]

theorem hexDigit_ne_null {digit : Nat} (small : digit < 16) : Text.hexDigit digit ≠ '\x00' := by
  revert digit
  decide

/-- Controls are escaped, the null character among them. -/
theorem clear_escapedChar (char : Char) : Clear (Json.escapedChar char) := by
  unfold Json.escapedChar
  split_ifs with quote backslash backspace feed newline carriage tab control
  all_goals try simp
  · have leading : char.toNat / 16 < 16 := by omega
    exact ⟨hexDigit_ne_null leading, hexDigit_ne_null (Nat.mod_lt _ (by decide))⟩
  · rintro rfl
    exact control (by decide)

theorem clear_string {text : String} : Clear (Json.writeString text) := by
  have body : Clear (text.toList.flatMap Json.escapedChar) := by
    intro member
    obtain ⟨char, _, inside⟩ := List.mem_flatMap.mp member
    exact clear_escapedChar char inside
  simp [Json.writeString, body]

mutual
theorem clear_json : ∀ value : Json, Clear value.write
  | .null => by simp [Json.write]
  | .bool true => by simp [Json.write]
  | .bool false => by simp [Json.write]
  | .number _ => clear_number
  | .string _ => clear_string
  | .array items => by simp [Json.write, clear_items items]
  | .object members => by simp [Json.write, clear_members members]

theorem clear_items : ∀ items : List Json, Clear (Json.writeItems items)
  | [] => by simp [Json.writeItems]
  | [item] => by simp [Json.writeItems, clear_json item]
  | item :: next :: items => by
    simp [Json.writeItems, clear_json item, clear_items (next :: items)]

theorem clear_members : ∀ members : List (String × Json), Clear (Json.writeMembers members)
  | [] => by simp [Json.writeMembers]
  | [(_, value)] => by simp [Json.writeMembers, clear_string, clear_json value]
  | (_, value) :: next :: members => by
    simp [Json.writeMembers, clear_string, clear_json value, clear_members (next :: members)]
end

theorem clear_timestamp {instant : Instant} : Clear (Timestamp.write instant) := by
  have padded (width number : Nat) : Clear (Timestamp.padded width number) := by
    simp [Timestamp.padded]
  have year (year : Int) : Clear (Timestamp.writeYear year) := by
    rw [Timestamp.writeYear]
    split
    · exact padded 4 _
    · split <;> simp [padded]
  simp [Timestamp.write, padded, year]

theorem clear_uuid {uuid : Uuid} : Clear uuid.write := by
  intro member
  rcases Uuid.mem_hyphenated member with hyphen | digit
  · exact absurd hyphen (by decide)
  · obtain ⟨digit, _, same⟩ := List.mem_map.mp digit
    exact hexDigit_ne_null digit.isLt same

theorem clear_joined {texts : List (List Char)} (clear : ∀ text ∈ texts, Clear text) :
    Clear (Text.joined ',' texts) := by
  induction texts with
  | nil => exact clear_nil
  | cons text others ih =>
    obtain ⟨first, rest⟩ := List.forall_mem_cons.mp clear
    cases others with
    | nil => exact first
    | cons next others =>
      rw [Text.joined_cons ',' text (by simp), clear_append, clear_cons]
      exact ⟨first, by decide, ih rest⟩

theorem clear_joinCategories {categories : List String} {text : String}
    (clear : ∀ category ∈ categories, Clear category.toList)
    (joined : Record.joinCategories categories = some text) : Clear text.toList := by
  rw [Record.joinCategories] at joined
  split at joined
  · cases joined
  · cases joined
    rw [Text.joinTexts, String.toList_ofList]
    apply clear_joined
    intro text member
    obtain ⟨category, inside, rfl⟩ := List.mem_map.mp member
    exact clear category inside

theorem clear_encodePayload {payload : Option Json} {text : String}
    (encoded : Record.encodePayload payload = some text) : Clear text.toList := by
  unfold Record.encodePayload at encoded
  split at encoded
  · cases encoded
  · cases encoded
  · cases encoded
    rw [Json.toText, String.toList_ofList]
    exact clear_json _

end EventStore.Proofs.StoredTexts
