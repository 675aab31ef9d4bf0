import Onboarding.Text.Hexadecimal
import Onboarding.Text.Utf8

/-! # Percent encoding

A character that may not stand in a part of a URL is written as its UTF-8 bytes, each
as a percent sign with two hexadecimal digits. Every part has its own characters that
are encoded; the percent sign is never among them, so what is encoded already stays
as it is (`encode_encode`). Characters outside ASCII are encoded everywhere.
-/

namespace Onboarding.Percent

/-- A byte as a percent sign with two digits. -/
def encodeByte (byte : UInt8) : List Char :=
  ['%', Text.capitalHexDigit (byte.toNat / 16), Text.capitalHexDigit (byte.toNat % 16)]

/-- A character as it stands in a part of a URL with the given characters that are
encoded there. -/
def encodeChar (encoded : Char → Bool) (c : Char) : List Char :=
  if encoded c || 0x80 ≤ c.toNat then (Text.Utf8.encodeChar c).flatMap encodeByte else [c]

/-- Characters as they stand in a part of a URL. -/
def encode (encoded : Char → Bool) (chars : List Char) : List Char :=
  chars.flatMap (encodeChar encoded)

/-- The bytes of a text in which bytes may be written with percent signs. A percent
sign without two digits behind it stands for itself. -/
def decode : List Char → List UInt8
  | [] => []
  | '%' :: high :: low :: rest =>
    match Text.hexValue? high, Text.hexValue? low with
    | some high, some low => .ofNat (high * 16 + low) :: decode rest
    | _, _ => .ofNat '%'.toNat :: decode (high :: low :: rest)
  | c :: rest => Text.Utf8.encodeChar c ++ decode rest

/-! ## The characters that are encoded -/

/-- Control characters. -/
def isControl (c : Char) : Bool :=
  c.toNat < 0x20 || c.toNat == 0x7F

/-- The characters encoded in a fragment. -/
def inFragment (c : Char) : Bool :=
  isControl c || [' ', '\x22', '<', '>', '`'].contains c

/-- The characters encoded in a query. -/
def inQuery (c : Char) : Bool :=
  isControl c || [' ', '\x22', '#', '<', '>'].contains c

/-- The characters encoded in the query of a special URL. -/
def inSpecialQuery (c : Char) : Bool :=
  inQuery c || c == '\''

/-- The characters encoded in a segment of a path. -/
def inPath (c : Char) : Bool :=
  inFragment c || ['#', '?', '^', '{', '}'].contains c

/-- The characters encoded in the name and the password of a user. -/
def inUser (c : Char) : Bool :=
  inPath c || ['/', ':', ';', '=', '@', '[', '\\', ']', '|'].contains c

/-! ## Laws -/

/-- A character that need not be encoded stands for itself. -/
theorem encodeChar_of_plain {encoded : Char → Bool} {c : Char} (plain : encoded c = false)
    (ascii : c.toNat < 0x80) : encodeChar encoded c = [c] := by
  rw [encodeChar, if_neg]
  simp only [plain, Bool.false_or, decide_eq_true_eq]
  omega

/-- Characters that need not be encoded stand for themselves. -/
theorem encode_of_plain {encoded : Char → Bool} {chars : List Char}
    (plain : ∀ c ∈ chars, encoded c = false ∧ c.toNat < 0x80) :
    encode encoded chars = chars := by
  induction chars with
  | nil => rfl
  | cons c rest ih =>
    have first := plain c List.mem_cons_self
    rw [encode, List.flatMap_cons, encodeChar_of_plain first.1 first.2]
    exact congrArg _ (ih fun d member => plain d (List.mem_cons_of_mem _ member))

/-- The characters of a percent-encoded byte. -/
theorem mem_encodeByte {byte : UInt8} {c : Char} (member : c ∈ encodeByte byte) :
    c = '%' ∨ ∃ number < 16, c = Text.capitalHexDigit number := by
  have bound := byte.toNat_lt
  simp only [encodeByte, List.mem_cons, List.not_mem_nil, or_false] at member
  rcases member with member | member | member
  · exact .inl member
  · exact .inr ⟨byte.toNat / 16, by omega, member⟩
  · exact .inr ⟨byte.toNat % 16, by omega, member⟩

/-- A percent sign or a digit, as percent-encoded bytes are made of. -/
def isEncodedChar (c : Char) : Bool :=
  c == '%' || c.isDigit || ('A' ≤ c && c ≤ 'F')

/-- The encoding of a byte is made of characters of encodings. -/
theorem isEncodedChar_of_mem_encodeByte {byte : UInt8} {c : Char}
    (member : c ∈ encodeByte byte) : isEncodedChar c = true := by
  have digits : ∀ number : Fin 16, isEncodedChar (Text.capitalHexDigit number) = true := by decide
  rcases mem_encodeByte member with rfl | ⟨number, bound, rfl⟩
  · rfl
  · exact digits ⟨number, bound⟩

/-- What is left of a character by percent encoding: a plain character, or signs and
digits. -/
theorem plain_of_mem_encode {encoded : Char → Bool} {chars : List Char} {c : Char}
    (member : c ∈ encode encoded chars) :
    (c ∈ chars ∧ encoded c = false ∧ c.toNat < 0x80) ∨ isEncodedChar c = true := by
  obtain ⟨source, inChars, inSource⟩ := List.mem_flatMap.mp member
  rw [encodeChar] at inSource
  split at inSource
  · obtain ⟨byte, _, inByte⟩ := List.mem_flatMap.mp inSource
    exact .inr (isEncodedChar_of_mem_encodeByte inByte)
  · next plain =>
    obtain rfl := List.mem_singleton.mp inSource
    simp only [Bool.or_eq_true, decide_eq_true_eq, not_or, Bool.not_eq_true] at plain
    exact .inl ⟨inChars, plain.1, by omega⟩

/-- Characters of encodings are in ASCII. -/
theorem toNat_lt_of_isEncodedChar {c : Char} (isEncoded : isEncodedChar c = true) :
    c.toNat < 0x80 := by
  simp only [isEncodedChar, Bool.or_eq_true, beq_iff_eq, Bool.and_eq_true, decide_eq_true_eq,
    Char.isDigit, Char.le_def] at isEncoded
  rcases isEncoded with (rfl | digit) | letter
  · decide
  · have := UInt32.le_iff_toNat_le.mp digit.2
    exact Nat.lt_of_le_of_lt this (by decide)
  · have := UInt32.le_iff_toNat_le.mp letter.2
    exact Nat.lt_of_le_of_lt this (by decide)

/-- Encoding what is encoded changes nothing, where signs and digits stand for
themselves. -/
theorem encode_encode {encoded : Char → Bool}
    (stands : ∀ c, isEncodedChar c = true → encoded c = false) (chars : List Char) :
    encode encoded (encode encoded chars) = encode encoded chars :=
  encode_of_plain fun c member => by
    rcases plain_of_mem_encode member with ⟨_, plain, ascii⟩ | isEncoded
    · exact ⟨plain, ascii⟩
    · exact ⟨stands c isEncoded, toNat_lt_of_isEncodedChar isEncoded⟩

/-- A percent-encoded byte is read as that byte. -/
theorem decode_encodeByte_append (byte : UInt8) (rest : List Char) :
    decode (encodeByte byte ++ rest) = byte :: decode rest := by
  have bound := byte.toNat_lt
  simp only [encodeByte, List.cons_append, List.nil_append, decode,
    Text.hexValue?_capitalHexDigit (by omega : byte.toNat / 16 < 16),
    Text.hexValue?_capitalHexDigit (by omega : byte.toNat % 16 < 16)]
  rw [show byte.toNat / 16 * 16 + byte.toNat % 16 = byte.toNat by omega, UInt8.ofNat_toNat]

/-- Bytes that are encoded are decoded again. -/
theorem decode_encodeBytes_append (bytes : List UInt8) (rest : List Char) :
    decode (bytes.flatMap encodeByte ++ rest) = bytes ++ decode rest := by
  induction bytes with
  | nil => rfl
  | cons byte bytes ih =>
    rw [List.flatMap_cons, List.append_assoc, decode_encodeByte_append, ih, List.cons_append]

/-- What is no encoding stands for its own bytes. -/
theorem decode_cons_of_ne {c : Char} (other : c ≠ '%') (rest : List Char) :
    decode (c :: rest) = Text.Utf8.encodeChar c ++ decode rest := by
  rw [decode]
  intro high low tail isPercent
  exact absurd isPercent other

end Onboarding.Percent
