import Mathlib.Tactic.SplitIfs

/-! # The order of texts by their bytes

Texts are compared by the code points of their characters. Comparing them by their bytes in UTF-8
comes to the same (`Onboarding.Text.bytes_lt`): the first byte of a character tells how many follow,
more for later characters, and the bytes hold the digits of the code point from the leading one on.
-/

namespace Onboarding.Text

/-- The bytes of a text in UTF-8. -/
def bytes (text : String) : List UInt8 :=
  text.toUTF8.data.toList

/-- The bytes of a text are those of its characters. -/
theorem bytes_eq (text : String) : bytes text = text.toList.flatMap String.utf8EncodeChar := by
  rw [bytes, String.toUTF8, ← String.utf8Encode_toList]
  exact List.toList_data_toByteArray

/-- Bytes are ordered by the first, and then by the rest. -/
theorem ofNat_cons_lt_iff {first second : Nat} (firstSmall : first < 256)
    (secondSmall : second < 256) {left right : List UInt8} :
    UInt8.ofNat first :: left < UInt8.ofNat second :: right ↔
      first < second ∨ first = second ∧ left < right := by
  rw [List.cons_lt_cons_iff, UInt8.lt_iff_toNat_lt, ← UInt8.toNat_inj,
    UInt8.toNat_ofNat_of_lt' firstSmall, UInt8.toNat_ofNat_of_lt' secondSmall]

/-- The bytes of a character are in front of those of a later one, whatever stands behind them. -/
theorem utf8EncodeChar_lt {c d : Char} (below : c < d) (left right : List UInt8) :
    String.utf8EncodeChar c ++ left < String.utf8EncodeChar d ++ right := by
  have less : c.val.toNat < d.val.toNat := below
  have valid : d.val.toNat < 0xD800 ∨ 0xDFFF < d.val.toNat ∧ d.val.toNat < 0x110000 := d.valid
  unfold String.utf8EncodeChar
  generalize c.val.toNat = first at less
  generalize d.val.toNat = second at less valid
  -- division by the base again and again gives the digits that the bytes are made of
  have digits (code : Nat) : code / 0x1000 = code / 0x40 / 0x40 ∧
      code / 0x40000 = code / 0x40 / 0x40 / 0x40 := by omega
  simp only [digits]
  split_ifs <;>
    simp (disch := omega) only [List.cons_append, List.nil_append, ofNat_cons_lt_iff] <;>
    omega

/-- Characters in order have their bytes in order. -/
theorem flatMap_utf8EncodeChar_lt {left right : List Char} (below : left < right) :
    left.flatMap String.utf8EncodeChar < right.flatMap String.utf8EncodeChar := by
  induction left generalizing right with
  | nil =>
      cases right with
      | nil => exact absurd below (List.not_lt_nil [])
      | cons d others =>
          rw [List.flatMap_nil, List.flatMap_cons]
          cases encoded : String.utf8EncodeChar d with
          | nil => exact absurd encoded String.utf8EncodeChar_ne_nil
          | cons byte more => exact List.nil_lt_cons _ _
  | cons c rest ih =>
      cases right with
      | nil => exact absurd below (List.not_lt_nil _)
      | cons d others =>
          rw [List.flatMap_cons, List.flatMap_cons]
          rcases List.cons_lt_cons_iff.mp below with less | ⟨rfl, less⟩
          · exact utf8EncodeChar_lt less _ _
          · exact List.append_left_lt (ih less)

/-- Texts that are ordered by their characters are ordered alike by their bytes. -/
theorem bytes_lt {left right : String} (below : left < right) : bytes left < bytes right := by
  have ofChars : left.toList < right.toList := below
  rw [bytes_eq, bytes_eq]
  exact flatMap_utf8EncodeChar_lt ofChars

end Onboarding.Text
