import Onboarding.Text.Utf8

/-! # Encodings of texts

Bytes that come from elsewhere are said to be a text in some encoding. A byte order mark
in front of them knows better, and is no part of the text. Whatever the encoding is, every
fault is replaced, so that there is always a text (`Onboarding.Text.Encoding.decodeText`).
-/

namespace Onboarding.Text

/-- Which of the two bytes of a code unit comes first: the lower or the higher. -/
inductive ByteOrder where
  | little
  | big
  deriving DecidableEq, Repr

namespace Utf16

/-- Whether a code unit is the first half of a pair. -/
def isHighSurrogate (unit : Nat) : Bool := decide (0xD800 ≤ unit) && decide (unit ≤ 0xDBFF)

/-- Whether a code unit is the second half of a pair. -/
def isLowSurrogate (unit : Nat) : Bool := decide (0xDC00 ≤ unit) && decide (unit ≤ 0xDFFF)

/-- The character that a pair of surrogates stands for. -/
def pairedChar (high low : Nat) : Char :=
  Char.ofNat (0x10000 + (high - 0xD800) * 0x400 + (low - 0xDC00))

/-- The code units of bytes, and whether a single byte is left at the end. -/
def units (order : ByteOrder) : List UInt8 → List Nat × Bool
  | first :: second :: rest =>
    let unit :=
      match order with
      | .little => first.toNat + second.toNat * 0x100
      | .big => first.toNat * 0x100 + second.toNat
    let (others, isOdd) := units order rest
    (unit :: others, isOdd)
  | [_] => ([], true)
  | [] => ([], false)

/-- The characters of code units. A half of a pair that stands alone is replaced. What
breaks off at the end is one fault, be it a half of a pair, a single byte or both. -/
def decodeUnits (isOdd : Bool) : List Nat → List Char
  | [] => if isOdd then [Utf8.replacement] else []
  | [unit] =>
    if isHighSurrogate unit then [Utf8.replacement]
    else
      (if isLowSurrogate unit then Utf8.replacement else Char.ofNat unit) :: decodeUnits isOdd []
  | unit :: next :: rest =>
    if isHighSurrogate unit then
      if isLowSurrogate next then pairedChar unit next :: decodeUnits isOdd rest
      else Utf8.replacement :: decodeUnits isOdd (next :: rest)
    else
      (if isLowSurrogate unit then Utf8.replacement else Char.ofNat unit) ::
        decodeUnits isOdd (next :: rest)

/-- The characters of bytes, with a replacement for every fault. -/
def decode (order : ByteOrder) (bytes : List UInt8) : List Char :=
  let (units, isOdd) := units order bytes
  decodeUnits isOdd units

end Utf16

/-- An encoding. Two are told by byte order marks; of the others it is only known what
they make of bytes. -/
inductive Encoding where
  | utf8
  | utf16 (order : ByteOrder)
  | other (decode : List UInt8 → List Char)

namespace Encoding

/-- The characters of bytes, whatever stands in front of them. -/
def decode : Encoding → List UInt8 → List Char
  | utf8, bytes => Utf8.decode bytes
  | utf16 order, bytes => Utf16.decode order bytes
  | other decode, bytes => decode bytes

/-- The encoding that a byte order mark in front of bytes tells, and the bytes behind it. -/
def marked? : List UInt8 → Option (Encoding × List UInt8)
  | 0xEF :: 0xBB :: 0xBF :: rest => some (utf8, rest)
  | 0xFF :: 0xFE :: rest => some (utf16 .little, rest)
  | 0xFE :: 0xFF :: rest => some (utf16 .big, rest)
  | _ => none

/-- The text of bytes that are said to be in an encoding. -/
def decodeText (encoding : Encoding) (bytes : List UInt8) : String :=
  match marked? bytes with
  | some (told, rest) => String.ofList (told.decode rest)
  | none => String.ofList (encoding.decode bytes)

/-- The character that a byte order mark stands for. -/
def mark : Char := '\ufeff'

/-- The bytes of a text begin with a byte order mark of their own encoding, or with none. -/
theorem marked?_encode {chars : List Char} (unmarked : chars.head? ≠ some mark) :
    marked? (Utf8.encode chars) = none := by
  cases chars with
  | nil => rfl
  | cons c chars =>
    obtain ⟨first, others, isEncoded, bound⟩ := Utf8.encodeChar_first c
    have begins : Utf8.encode (c :: chars) = first :: (others ++ Utf8.encode chars) := by
      rw [Utf8.encode, List.flatMap_cons, isEncoded]
      rfl
    unfold marked?
    split
    · next rest isMarked =>
      -- these are the bytes of the mark, so that the text begins with it
      have isMark : Utf8.encodeChar mark = [0xEF, 0xBB, 0xBF] := by decide
      have decoded : c :: chars = mark :: Utf8.decode rest := by
        rw [← Utf8.decode_encode (c :: chars), isMarked, ← Utf8.decode_encodeChar_append, isMark]
        rfl
      exact absurd (congrArg List.head? decoded) unmarked
    · next rest isMarked =>
      obtain ⟨rfl, _⟩ := List.cons.inj (begins.symm.trans isMarked)
      exact absurd bound (by decide)
    · next rest isMarked =>
      obtain ⟨rfl, _⟩ := List.cons.inj (begins.symm.trans isMarked)
      exact absurd bound (by decide)
    · rfl

/-- The bytes of a text are read as that text, if it does not itself begin with a mark. -/
theorem decodeText_encode {text : String} (unmarked : text.toList.head? ≠ some mark) :
    utf8.decodeText (Utf8.encode text.toList) = text := by
  rw [decodeText, marked?_encode unmarked]
  change String.ofList (Utf8.decode (Utf8.encode text.toList)) = text
  rw [Utf8.decode_encode, String.ofList_toList]

end Encoding

end Onboarding.Text
