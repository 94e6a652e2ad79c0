/-
Module: WaitFor.Proofs.Text.ByteOrder
Purpose: The order of texts by code point is the order of their UTF-8 bytes.
Main exports: Text.bytes, Text.encoded_lt, Text.bytes_lt_iff, Text.bytes_inj
-/
import Mathlib

namespace WaitFor.Text

/-!
UTF-8 was made so that bytes compare as code points do.  The first byte of a character grows with the
number of its bytes, so characters of different lengths differ there; characters of one length are
the digits of their code points to base 64, the most significant one first.
-/

/-- The bytes of a text in UTF-8. -/
def bytes (text : String) : List UInt8 := text.toUTF8.data.toList

theorem bytes_eq_flatMap (text : String) :
    bytes text = text.toList.flatMap String.utf8EncodeChar := by
  have encoded : text.toByteArray = text.toList.utf8Encode := by
    conv_lhs => rw [← String.ofList_toList (s := text)]
    rw [String.toByteArray_ofList]
  rw [bytes, String.toUTF8_eq_toByteArray, encoded, List.utf8Encode, List.data_toByteArray]

/-- Rows of bytes compare by their first bytes, and by the rest if these tie. -/
theorem byte_cons_lt {m n : Nat} {xs ys : List UInt8} (small : n < 256) (ordered : m ≤ n)
    (tied : m = n → xs < ys) : UInt8.ofNat m :: xs < UInt8.ofNat n :: ys := by
  rw [List.cons_lt_cons_iff]
  rcases Nat.lt_or_eq_of_le ordered with before | rfl
  · left
    rw [UInt8.lt_iff_toNat_lt, UInt8.toNat_ofNat', UInt8.toNat_ofNat']
    omega
  · exact Or.inr ⟨rfl, tied rfl⟩

/-- The bytes of a smaller character come first, whatever follows them: the encodings differ before
either of them ends. -/
theorem encoded_lt {c d : Char} (before : c < d) (xs ys : List UInt8) :
    String.utf8EncodeChar c ++ xs < String.utf8EncodeChar d ++ ys := by
  have codes : c.val.toNat < d.val.toNat := before
  have valid : d.val.toNat < 0x110000 := by
    have := d.valid
    rw [UInt32.isValidChar, Nat.isValidChar] at this
    omega
  simp only [String.utf8EncodeChar]
  generalize c.val.toNat = m at codes
  generalize d.val.toNat = n at codes valid
  -- By the length of the smaller character; the greater one is at least as long.
  split
  · split
    · exact byte_cons_lt (by omega) (by omega) (by omega)
    · split
      · exact byte_cons_lt (by omega) (by omega) (by omega)
      · split
        · exact byte_cons_lt (by omega) (by omega) (by omega)
        · exact byte_cons_lt (by omega) (by omega) (by omega)
  · rw [if_neg (by omega : ¬n ≤ 127)]
    split
    · split
      · exact byte_cons_lt (by omega) (by omega) fun _ =>
          byte_cons_lt (by omega) (by omega) (by omega)
      · split
        · exact byte_cons_lt (by omega) (by omega) (by omega)
        · exact byte_cons_lt (by omega) (by omega) (by omega)
    · rw [if_neg (by omega : ¬n ≤ 2047)]
      split
      · split
        · exact byte_cons_lt (by omega) (by omega) fun _ =>
            byte_cons_lt (by omega) (by omega) fun _ =>
            byte_cons_lt (by omega) (by omega) (by omega)
        · exact byte_cons_lt (by omega) (by omega) (by omega)
      · rw [if_neg (by omega : ¬n ≤ 65535)]
        exact byte_cons_lt (by omega) (by omega) fun _ =>
          byte_cons_lt (by omega) (by omega) fun _ =>
          byte_cons_lt (by omega) (by omega) fun _ =>
          byte_cons_lt (by omega) (by omega) (by omega)

/-- By induction on where the texts differ. -/
theorem flatMap_encoded_lt {cs ds : List Char} (before : cs < ds) :
    cs.flatMap String.utf8EncodeChar < ds.flatMap String.utf8EncodeChar := by
  induction before with
  | @nil d ds =>
      rw [List.flatMap_nil, List.flatMap_cons]
      cases encoded : String.utf8EncodeChar d with
      | nil => exact absurd encoded String.utf8EncodeChar_ne_nil
      | cons _ _ => exact List.nil_lt_cons _ _
  | rel first =>
      rw [List.flatMap_cons, List.flatMap_cons]
      exact encoded_lt first _ _
  | cons _ ih =>
      rw [List.flatMap_cons, List.flatMap_cons]
      exact List.append_left_lt ih

theorem bytes_lt_of_lt {a b : String} (before : a < b) : bytes a < bytes b := by
  rw [bytes_eq_flatMap, bytes_eq_flatMap]
  exact flatMap_encoded_lt (String.lt_iff_toList_lt.mp before)

/-- Texts stand in the order of their bytes. -/
theorem bytes_lt_iff {a b : String} : bytes a < bytes b ↔ a < b := by
  refine ⟨fun before => ?_, bytes_lt_of_lt⟩
  rcases lt_trichotomy a b with less | rfl | greater
  · exact less
  · exact absurd before (List.lt_irrefl _)
  · exact absurd before (List.lt_asymm (bytes_lt_of_lt greater))

/-- Different texts have different bytes. -/
theorem bytes_inj {a b : String} : bytes a = bytes b ↔ a = b := by
  rw [bytes, bytes, Array.toList_inj, ← ByteArray.ext_iff, String.toUTF8_eq_toByteArray,
    String.toUTF8_eq_toByteArray, String.toByteArray_inj]

end WaitFor.Text
