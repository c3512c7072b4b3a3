/-
Module: Multitape.Proofs.ByteOrder
Purpose: The order of texts is the order of their bytes.  A character with a greater number has greater bytes, so
  it does not matter whether texts are compared by characters or by the bytes in which files store them.
Main exports: Text.bytes, Text.bytes_eq, Text.encode_append_lt, Text.flatMap_encode_lt_iff, Text.bytes_lt_iff
-/
import Mathlib.Data.Char
import Mathlib.Data.List.Basic
import Mathlib.Tactic.SplitIfs

namespace Multitape.Text

/-- The bytes of a text in UTF-8. -/
def bytes (text : String) : List UInt8 := text.toUTF8.data.toList

theorem bytes_eq (text : String) : bytes text = text.toList.flatMap String.utf8EncodeChar := by
  conv_lhs => rw [← String.ofList_toList (s := text)]
  rw [bytes, String.toUTF8, String.toByteArray_ofList, List.utf8Encode, List.data_toByteArray]

/-- The bytes of a greater character are greater, whatever follows them. -/
theorem encode_append_lt {c d : Char} (less : c < d) (after others : List UInt8) :
    String.utf8EncodeChar c ++ after < String.utf8EncodeChar d ++ others := by
  have order : c.val.toNat < d.val.toNat := less
  have bound : d.val.toNat < 1114112 := by
    rcases d.valid with low | ⟨-, high⟩
    · exact Nat.lt_trans low (by decide)
    · exact high
  unfold String.utf8EncodeChar
  dsimp only
  generalize c.val.toNat = v at *
  generalize d.val.toNat = w at *
  split_ifs <;>
    simp (disch := omega) only [List.cons_append, List.nil_append, List.cons_lt_cons_iff,
      UInt8.lt_iff_toNat_lt, ← UInt8.toNat_inj, UInt8.toNat_ofNat', Nat.mod_eq_of_lt] <;> omega

theorem encode_ne_nil (c : Char) : String.utf8EncodeChar c ≠ [] := by
  unfold String.utf8EncodeChar
  dsimp only
  split_ifs <;> exact List.cons_ne_nil _ _

theorem append_lt_append_left_iff (before left right : List UInt8) :
    before ++ left < before ++ right ↔ left < right := by
  induction before with
  | nil => rfl
  | cons byte before ih =>
      rw [List.cons_append, List.cons_append, List.cons_lt_cons_iff, ih]
      simp

/-- Rows of characters are in the order of their bytes. -/
theorem flatMap_encode_lt_iff (left right : List Char) :
    left.flatMap String.utf8EncodeChar < right.flatMap String.utf8EncodeChar ↔ left < right := by
  induction left generalizing right with
  | nil =>
      cases right with
      | nil => exact iff_of_false (List.not_lt_nil _) (List.not_lt_nil _)
      | cons d right =>
          obtain ⟨byte, bytes, encoded⟩ := List.exists_cons_of_ne_nil (encode_ne_nil d)
          rw [List.flatMap_cons, encoded]
          exact iff_of_true (List.nil_lt_cons _ _) (List.nil_lt_cons _ _)
  | cons c left ih =>
      cases right with
      | nil => exact iff_of_false (List.not_lt_nil _) (List.not_lt_nil _)
      | cons d right =>
          rw [List.flatMap_cons, List.flatMap_cons, List.cons_lt_cons_iff]
          rcases lt_trichotomy c d with less | rfl | greater
          · exact iff_of_true (encode_append_lt less _ _) (.inl less)
          · rw [append_lt_append_left_iff, ih]
            simp
          · refine iff_of_false (List.lt_asymm (encode_append_lt greater _ _)) ?_
            rintro (less | ⟨rfl, -⟩)
            · exact lt_asymm greater less
            · exact lt_irrefl _ greater

/-- A text stands before another one if its bytes do. -/
theorem bytes_lt_iff {left right : String} : bytes left < bytes right ↔ left < right := by
  rw [bytes_eq, bytes_eq, flatMap_encode_lt_iff, String.lt_iff]

end Multitape.Text
