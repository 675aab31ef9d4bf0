import Onboarding.Text.Splitting
import Onboarding.Url.PercentEncoding

/-! # Parameters in a query

A list of named values is written into a query as `name=value`, with an ampersand
between two of them. Letters, digits and four marks stand for themselves, a space is
written as a plus sign, and everything else is percent-encoded. What was written is
read as the same list (`parse_write`).
-/

namespace Onboarding.Form

/-- The characters that do not stand for themselves. A space is one of them. -/
def isEncoded (c : Char) : Bool :=
  !(c.isAlphanum || ['*', '-', '.', '_'].contains c)

/-- A character of a name or a value. -/
def writeChar (c : Char) : List Char :=
  if c = ' ' then ['+'] else Percent.encodeChar isEncoded c

/-- A text of a form, character by character. -/
def writeText (text : String) : List Char :=
  text.toList.flatMap writeChar

/-- A name and its value, with an equals sign between them. -/
def writePair (pair : String × String) : List Char :=
  writeText pair.1 ++ '=' :: writeText pair.2

/-- The pairs of a form, with ampersands between them. -/
def write : List (String × String) → List Char
  | [] => []
  | [pair] => writePair pair
  | pair :: pairs => writePair pair ++ '&' :: write pairs

/-- A plus sign is read as a space. -/
def spaced (c : Char) : Char :=
  if c = '+' then ' ' else c

/-- A text that is read: a plus stands for a space, and bytes that are no text for the
replacement character. -/
def readText (chars : List Char) : String :=
  String.ofList (Text.Utf8.decode (Percent.decode (chars.map spaced)))

/-- Read a named value. A part without an equals sign is a name with an empty value. -/
def readPair (chars : List Char) : String × String :=
  (readText (chars.takeWhile (· ≠ '=')), readText (chars.dropWhile (· ≠ '=')).tail)

/-- Read a list of named values. Empty parts count for nothing. -/
def parse (query : List Char) : List (String × String) :=
  ((Text.splitAt '&' query).filter (!·.isEmpty)).map readPair

/-! ## Reading what was written -/

/-- What is read on both sides of an ampersand is read in turn. -/
theorem parse_append (left right : List Char) :
    parse (left ++ '&' :: right) = parse left ++ parse right := by
  rw [parse, Text.splitAt_append, List.filter_append, List.map_append, parse, parse]

/-- What texts are written with: plus signs, characters that stand for themselves, and those of
percent-encoded bytes. -/
theorem mem_writeText_cases {text : String} {c : Char} (member : c ∈ writeText text) :
    c = '+' ∨ (isEncoded c = false ∧ c.toNat < 0x80) ∨ Percent.isEncodedChar c = true := by
  obtain ⟨source, _, inSource⟩ := List.mem_flatMap.mp member
  rw [writeChar] at inSource
  split at inSource
  · exact .inl (List.mem_singleton.mp inSource)
  · have inEncoded : c ∈ Percent.encode isEncoded [source] := by
      rw [Percent.encode, List.flatMap_singleton]
      exact inSource
    rcases Percent.plain_of_mem_encode inEncoded with ⟨_, plain⟩ | isEncoded
    · exact .inr (.inl plain)
    · exact .inr (.inr isEncoded)

/-- A written character is no separator. -/
theorem not_separator_of_mem_writeText {text : String} {c : Char}
    (member : c ∈ writeText text) : c ≠ '&' ∧ c ≠ '=' := by
  rcases mem_writeText_cases member with rfl | ⟨plain, _⟩ | isEncoded
  · decide
  · constructor <;> rintro rfl <;> exact absurd plain (by decide)
  · constructor <;> rintro rfl <;> exact absurd isEncoded (by decide)

/-- Characters of an encoding are no plus. -/
theorem spaced_of_isEncodedChar {c : Char} (isEncoded : Percent.isEncodedChar c = true) :
    spaced c = c := by
  rw [spaced, if_neg]
  rintro rfl
  exact absurd isEncoded (by decide)

/-- A character that is written is read back as its bytes. -/
theorem decode_writeChar_append (c : Char) (rest : List Char) :
    Percent.decode ((writeChar c).map spaced ++ rest) =
      Text.Utf8.encodeChar c ++ Percent.decode rest := by
  rw [writeChar]
  split
  · next isSpace =>
    subst isSpace
    exact Percent.decode_cons_of_ne (by decide) rest
  · rw [Percent.encodeChar]
    split
    · have same : ((Text.Utf8.encodeChar c).flatMap Percent.encodeByte).map spaced =
          (Text.Utf8.encodeChar c).flatMap Percent.encodeByte := by
        refine (List.map_congr_left fun d member => ?_).trans (List.map_id _)
        obtain ⟨byte, _, inByte⟩ := List.mem_flatMap.mp member
        exact spaced_of_isEncodedChar (Percent.isEncodedChar_of_mem_encodeByte inByte)
      rw [same, Percent.decode_encodeBytes_append]
    · next plain =>
      have notSign : c ≠ '%' := by
        rintro rfl
        exact absurd plain (by decide)
      have notPlus : c ≠ '+' := by
        rintro rfl
        exact absurd plain (by decide)
      rw [List.map_singleton, spaced, if_neg notPlus, List.singleton_append,
        Percent.decode_cons_of_ne notSign]

/-- A written text is read as that text. -/
theorem readText_writeText (text : String) : readText (writeText text) = text := by
  have bytes : ∀ chars : List Char,
      Percent.decode ((chars.flatMap writeChar).map spaced) = Text.Utf8.encode chars := by
    intro chars
    induction chars with
    | nil => rfl
    | cons c rest ih =>
      rw [List.flatMap_cons, List.map_append, decode_writeChar_append, ih]
      rfl
  rw [readText, writeText, bytes, Text.Utf8.decode_encode, String.ofList_toList]

/-- A written pair is read as that pair. -/
theorem readPair_writePair (pair : String × String) : readPair (writePair pair) = pair := by
  have name : ∀ c ∈ writeText pair.1, (decide (c ≠ '=')) = true := fun c member =>
    decide_eq_true (not_separator_of_mem_writeText member).2
  rw [readPair, writePair, List.takeWhile_append_of_pos name, List.dropWhile_append_of_pos name]
  simp [readText_writeText]

/-- A pair that is written is read back. -/
theorem parse_writePair (pair : String × String) : parse (writePair pair) = [pair] := by
  have absent : '&' ∉ writePair pair := by
    intro member
    rcases List.mem_append.mp member with inName | inRest
    · exact (not_separator_of_mem_writeText inName).1 rfl
    · rcases List.mem_cons.mp inRest with isSign | inValue
      · exact absurd isSign (by decide)
      · exact (not_separator_of_mem_writeText inValue).1 rfl
  rw [parse, Text.splitAt_of_not_mem absent, List.filter_cons_of_pos, List.filter_nil,
    List.map_singleton, readPair_writePair]
  simp [writePair]

/-- What was written is read as the same list. -/
theorem parse_write (pairs : List (String × String)) : parse (write pairs) = pairs := by
  induction pairs with
  | nil => rfl
  | cons pair pairs ih =>
    cases pairs with
    | nil => exact parse_writePair pair
    | cons next others =>
      rw [write, parse_append, parse_writePair, ih, List.singleton_append]
      exact List.cons_ne_nil _ _

end Onboarding.Form
