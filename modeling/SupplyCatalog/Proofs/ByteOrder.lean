import Mathlib.Data.String.Basic
import SupplyCatalog.Text.Utf8

/-!
# The order of bytes

Texts stand in the order of their characters, which is the order of their bytes in UTF-8: a later
character has the greater bytes, whether it takes as many of them or more.
-/

namespace SupplyCatalog.Text

/-- Reading an array from a position on adds the bytes from there to those that were read. -/
theorem to_list_loop (bytes : ByteArray) (position : Nat) (read : List UInt8) :
    ByteArray.toList.loop bytes position read =
      read.reverse ++ bytes.data.toList.drop position := by
  fun_induction ByteArray.toList.loop bytes position read with
  | case1 position read more induction =>
      have inside : position < bytes.data.toList.length := more
      rw [induction, List.drop_eq_getElem_cons inside]
      simp [ByteArray.get!, more]
  | case2 position read done =>
      have outside : bytes.data.toList.length ≤ position := Nat.le_of_not_lt done
      rw [List.drop_eq_nil_of_le outside, List.append_nil]

theorem utf8_bytes_eq (text : String) :
    utf8Bytes text = text.toList.flatMap String.utf8EncodeChar := by
  have encoded : text.toByteArray = text.toList.utf8Encode := by
    rw [← String.toByteArray_ofList, String.ofList_toList]
  change ByteArray.toList.loop text.toByteArray 0 [] = _
  rw [to_list_loop, encoded, List.utf8Encode, List.data_toByteArray]
  rfl

/-- A later character is later by its bytes, whatever follows. -/
theorem encoded_lt {first second : Char} (less : first < second) (left right : List UInt8) :
    String.utf8EncodeChar first ++ left < String.utf8EncodeChar second ++ right := by
  have order : first.val.toNat < second.val.toNat := UInt32.lt_iff_toNat_lt.1 (Char.lt_def.1 less)
  have bound : second.val.toNat < 0x110000 := by
    have valid := second.valid
    unfold UInt32.isValidChar Nat.isValidChar at valid
    omega
  have twice (code : Nat) : code / 4096 = code / 64 / 64 := by rw [Nat.div_div_eq_div_mul]
  have thrice (code : Nat) : code / 262144 = code / 64 / 64 / 64 := by
    rw [Nat.div_div_eq_div_mul, Nat.div_div_eq_div_mul]
  unfold String.utf8EncodeChar
  dsimp only
  -- One case for each pair of widths; the first byte decides unless the widths are the same.
  split_ifs
  all_goals
    simp only [List.cons_append, List.nil_append, List.cons_lt_cons_iff, UInt8.lt_iff_toNat_lt,
      ← UInt8.toNat_inj, UInt8.toNat_ofNat', twice, thrice]
    omega

theorem exists_encoded (c : Char) : ∃ byte rest, String.utf8EncodeChar c = byte :: rest := by
  unfold String.utf8EncodeChar
  dsimp only
  split_ifs <;> exact ⟨_, _, rfl⟩

theorem encoded_list_lt {left right : List Char} (less : left < right) :
    left.flatMap String.utf8EncodeChar < right.flatMap String.utf8EncodeChar := by
  induction left generalizing right with
  | nil =>
      cases right with
      | nil => exact absurd less (List.lt_irrefl _)
      | cons second right =>
          obtain ⟨byte, rest, encoded⟩ := exists_encoded second
          rw [List.flatMap_cons, encoded]
          exact List.nil_lt_cons _ _
  | cons first left induction =>
      cases right with
      | nil => cases less
      | cons second right =>
          rw [List.flatMap_cons, List.flatMap_cons]
          rcases List.cons_lt_cons_iff.1 less with later | ⟨rfl, later⟩
          · exact encoded_lt later _ _
          · exact List.append_left_lt (induction later)

theorem utf8_bytes_lt {left right : String} (less : left < right) :
    utf8Bytes left < utf8Bytes right := by
  rw [utf8_bytes_eq, utf8_bytes_eq]
  exact encoded_list_lt (String.lt_iff.1 less)

/-- Texts are in the order of their bytes. -/
theorem utf8_bytes_lt_iff (left right : String) :
    utf8Bytes left < utf8Bytes right ↔ left < right := by
  refine ⟨?_, utf8_bytes_lt⟩
  intro bytes
  rcases lt_trichotomy left right with less | rfl | greater
  · exact less
  · exact absurd bytes (List.lt_irrefl _)
  · exact absurd bytes (List.lt_asymm (utf8_bytes_lt greater))

end SupplyCatalog.Text
