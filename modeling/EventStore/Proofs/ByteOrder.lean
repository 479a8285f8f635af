import EventStore.Text.Percent
import Mathlib.Data.List.Lex

/-! Texts that ascend by their characters ascend by their bytes as well: the first byte in which
two characters differ is smaller for the smaller one, and it decides whatever follows. -/

namespace EventStore.Proofs.ByteOrder

theorem ofText_eq (text : String) :
    Bytes.ofText text = text.toList.flatMap String.utf8EncodeChar := by
  rw [Bytes.ofText, String.toUTF8, ← String.utf8Encode_toList, List.utf8Encode,
    List.data_toByteArray]

theorem utf8EncodeChar_lt {left right : Char} (less : left < right) (first second : Bytes) :
    String.utf8EncodeChar left ++ first < String.utf8EncodeChar right ++ second := by
  have smaller : left.val.toNat < right.val.toNat := less
  have bounded : right.val.toNat < 0x110000 := by
    rcases right.valid with low | ⟨_, high⟩
    · exact Nat.lt_trans low (by decide)
    · exact high
  simp only [String.utf8EncodeChar]
  generalize left.val.toNat = left at *
  generalize right.val.toNat = right at *
  -- The digits to the base 64 one after the other, so that each byte is linked to the next.
  have third (code : Nat) : code / 4096 = code / 64 / 64 := by omega
  have fourth (code : Nat) : code / 262144 = code / 64 / 64 / 64 := by omega
  split_ifs
  all_goals
    simp only [List.cons_append, List.nil_append, List.cons_lt_cons_iff, UInt8.lt_iff_toNat_lt,
      ← UInt8.toNat_inj, UInt8.toNat_ofNat', third, fourth]
    omega

theorem flatMap_lt {left right : List Char} (less : left < right) :
    left.flatMap String.utf8EncodeChar < right.flatMap String.utf8EncodeChar := by
  induction less with
  | @nil char rest =>
    have encodes : String.utf8EncodeChar char ≠ [] := String.utf8EncodeChar_ne_nil
    obtain ⟨byte, bytes, encoded⟩ := List.exists_cons_of_ne_nil encodes
    rw [List.flatMap_cons, encoded]
    exact List.Lex.nil
  | @cons char first second _ ih =>
    rw [List.flatMap_cons, List.flatMap_cons]
    exact List.Lex.append_left (· < ·) ih _
  | @rel left first right second smaller =>
    rw [List.flatMap_cons, List.flatMap_cons]
    exact utf8EncodeChar_lt smaller _ _

/-- Texts compare as their bytes do. -/
theorem ofText_lt_iff {left right : String} :
    Bytes.ofText left < Bytes.ofText right ↔ left < right := by
  rw [ofText_eq, ofText_eq]
  constructor
  · intro less
    apply String.not_le.mp
    intro other
    by_cases same : right = left
    · exact List.lt_irrefl _ (same ▸ less)
    · have greater : right < left := Std.lt_of_le_of_ne other same
      exact List.lt_asymm less (flatMap_lt greater)
  · exact flatMap_lt

end EventStore.Proofs.ByteOrder
