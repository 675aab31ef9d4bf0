import Onboarding.Text.Normal
import Onboarding.Url.Host
import Onboarding.Url.PercentEncoding

/-! # Characters of a URL that was read

Percent encoding leaves signs and digits, which may stand everywhere in a URL, and characters that
the part at hand does not encode. So a part that was encoded stands as it is when it is encoded
again, and in front of the query there is no character that ends a part.
-/

namespace Onboarding

theorem toNat_lt_of_isAlphanum {c : Char} (isAlphanum : c.isAlphanum = true) : c.toNat < 0x80 := by
  change ((decide (c.val ≥ 65 ∧ c.val ≤ 90) || c.val ≥ 97 && c.val ≤ 122) ||
    c.val ≥ 48 && c.val ≤ 57) = true at isAlphanum
  simp only [Bool.or_eq_true, Bool.and_eq_true, decide_eq_true_eq] at isAlphanum
  rcases isAlphanum with (⟨_, below⟩ | ⟨_, below⟩) | ⟨_, below⟩ <;>
    exact Nat.lt_of_le_of_lt (UInt32.le_iff_toNat_le.mp below) (by decide)

namespace Percent

/-- A text in which nothing is left to encode. -/
def IsDone (encoded : Char → Bool) (chars : List Char) : Prop :=
  ∀ c ∈ chars, encoded c = false ∧ c.toNat < 0x80

theorem IsDone.encode_eq {encoded : Char → Bool} {chars : List Char}
    (done : IsDone encoded chars) : encode encoded chars = chars :=
  encode_of_plain done

theorem IsDone.append {encoded : Char → Bool} {left right : List Char}
    (ofLeft : IsDone encoded left) (ofRight : IsDone encoded right) :
    IsDone encoded (left ++ right) :=
  List.forall_mem_append.mpr ⟨ofLeft, ofRight⟩

/-- What holds of signs, digits and the characters that are kept holds of all that is left by
encoding. -/
theorem forall_mem_encode {motive : Char → Prop} {encoded : Char → Bool} {chars : List Char}
    (stands : ∀ c, isEncodedChar c = true → motive c)
    (kept : ∀ c ∈ chars, encoded c = false → c.toNat < 0x80 → motive c) :
    ∀ c ∈ encode encoded chars, motive c := by
  intro c member
  rcases plain_of_mem_encode member with ⟨inChars, plain, ascii⟩ | isEncoded
  · exact kept c inChars plain ascii
  · exact stands c isEncoded

/-- What is encoded needs it no more, if the characters of encodings do not. -/
theorem isDone_encode {encoded : Char → Bool}
    (stands : ∀ c, isEncodedChar c = true → encoded c = false) (chars : List Char) :
    IsDone encoded (encode encoded chars) :=
  forall_mem_encode (fun c isEncoded => ⟨stands c isEncoded, toNat_lt_of_isEncodedChar isEncoded⟩)
    fun _ _ plain ascii => ⟨plain, ascii⟩

theorem encodeChar_ne_nil (encoded : Char → Bool) (c : Char) : encodeChar encoded c ≠ [] := by
  unfold encodeChar
  split
  · have bytes := Text.Utf8.decode_encodeChar_append c []
    cases isSplit : Text.Utf8.encodeChar c with
    | nil => simp [isSplit, Text.Utf8.decode] at bytes
    | cons byte others => simp [encodeByte]
  · exact List.cons_ne_nil _ _

/-- A text that is not empty is encoded as something. -/
theorem encode_ne_nil {encoded : Char → Bool} {chars : List Char} (present : chars ≠ []) :
    encode encoded chars ≠ [] := by
  cases chars with
  | nil => exact absurd rfl present
  | cons c rest =>
      rw [encode, List.flatMap_cons]
      exact List.append_ne_nil_of_left_ne_nil (encodeChar_ne_nil encoded c) _

/-- Encoding puts no other mark in front of a text. -/
theorem head?_encode_ne {encoded : Char → Bool} {mark : Char} {chars : List Char}
    (unencoded : isEncodedChar mark = false) (begins : chars.head? ≠ some mark) :
    (encode encoded chars).head? ≠ some mark := by
  cases chars with
  | nil => exact begins
  | cons c rest =>
      have front := encodeChar_ne_nil encoded c
      intro isMark
      rw [encode, List.flatMap_cons, List.head?_append, List.head?_eq_some_head front,
        Option.some_or, ← List.head?_eq_some_head front] at isMark
      have member : mark ∈ encode encoded [c] := by
        simpa [encode] using List.mem_of_head? isMark
      rcases plain_of_mem_encode member with ⟨isFirst, _⟩ | isEncoded
      · exact begins (List.mem_singleton.mp isFirst ▸ rfl)
      · exact absurd isEncoded (Bool.eq_false_iff.mp unencoded)

/-- A text without percent signs is read as its own bytes. -/
theorem decode_of_not_mem {chars : List Char} (absent : '%' ∉ chars) :
    decode chars = Text.Utf8.encode chars := by
  induction chars with
  | nil => rfl
  | cons c rest ih =>
      rw [List.mem_cons, not_or] at absent
      rw [decode_cons_of_ne (Ne.symm absent.1), ih absent.2]
      rfl

/-- The characters of encoded bytes are encoded nowhere, and a host may have them. -/
theorem encodedChar_stands {c : Char} (isEncoded : isEncodedChar c = true) :
    isControl c = false ∧ inFragment c = false ∧ inQuery c = false ∧ inSpecialQuery c = false ∧
      inPath c = false ∧ inUser c = false ∧ Host.isForbidden c = false := by
  refine Text.char_cases_of_ascii (motive := fun c => isEncodedChar c = true →
    isControl c = false ∧ inFragment c = false ∧ inQuery c = false ∧ inSpecialQuery c = false ∧
      inPath c = false ∧ inUser c = false ∧ Host.isForbidden c = false) ?_
    (toNat_lt_of_isEncodedChar isEncoded) isEncoded
  decide +kernel

end Percent

/-- Characters that end a part in front of the query, or that no URL has. -/
def Url.isBreak (c : Char) : Bool :=
  Percent.isControl c || c == '#' || c == '?'

/-- A text that can stand in front of the query of a URL. -/
abbrev Url.IsUnbroken (chars : List Char) : Prop :=
  Percent.IsDone Url.isBreak chars

end Onboarding
