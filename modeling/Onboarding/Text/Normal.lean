import Onboarding.Text.NormalTable

/-! # The composed normal form

A letter with marks can be written in several ways that are to be taken for the same:
with one character or with several, and with marks in different orders. The composed
normal form is one of these: characters are decomposed, marks that do not affect each
other are put in the order of their combining classes, and what can be composed is
composed. Texts of ASCII characters are their own normal form.
-/

namespace Onboarding.Text

/-- The combining class of a character; zero for a character that is no mark. -/
def combiningClass (c : Char) : Nat :=
  let code := c.toNat
  let covers (row : List Nat) : Bool :=
    match row with
    | [only, _] => only == code
    | [first, last, _] => first ≤ code && code ≤ last
    | _ => false
  ((combiningRows.find? covers).bind List.getLast?).getD 0

/-! ## Hangul syllables -/

namespace Hangul

/-- Where the syllables begin. -/
def firstSyllable : Nat := 0xAC00

/-- How many syllables there are. -/
def syllableCount : Nat := 11172

/-- Where the leading consonants begin. -/
def firstLead : Nat := 0x1100

/-- Where the vowels begin. -/
def firstVowel : Nat := 0x1161

/-- The number before that of the first trailing consonant. -/
def beforeTrail : Nat := 0x11A7

/-- How many vowels there are. -/
def vowelCount : Nat := 21

/-- The number of trailing consonants, none at all being one of them. -/
def trailCount : Nat := 28

/-- How many leading consonants there are. -/
def leadCount : Nat := 19

/-- The letters of a syllable: a leading consonant, a vowel, and a trailing consonant if
there is one. -/
def decompose? (code : Nat) : Option (List Nat) :=
  if firstSyllable ≤ code ∧ code < firstSyllable + syllableCount then
    let index := code - firstSyllable
    let letters := [firstLead + index / (vowelCount * trailCount),
      firstVowel + index / trailCount % vowelCount]
    some (if index % trailCount = 0 then letters
      else letters ++ [beforeTrail + index % trailCount])
  else none

/-- The syllable of a leading consonant and a vowel, or of a syllable without a
trailing consonant and such a consonant. -/
def compose? (first second : Nat) : Option Nat :=
  if firstLead ≤ first ∧ first < firstLead + leadCount ∧
      firstVowel ≤ second ∧ second < firstVowel + vowelCount then
    some (firstSyllable +
      ((first - firstLead) * vowelCount + (second - firstVowel)) * trailCount)
  else if firstSyllable ≤ first ∧ first < firstSyllable + syllableCount ∧
      (first - firstSyllable) % trailCount = 0 ∧
      beforeTrail < second ∧ second < beforeTrail + trailCount then
    some (first + (second - beforeTrail))
  else none

end Hangul

/-! ## Decomposing, ordering, composing -/

/-- A character taken apart: a syllable by its number, any other character by the tables. -/
def decomposeChar (c : Char) : List Char :=
  let decomposition :=
    (Hangul.decompose? c.toNat).or
      ((Table.find? composedRows c.toNat).or (Table.find? replacedRows c.toNat))
  match decomposition with
  | some codes => codes.map Char.ofNat
  | none => [c]

/-- Put a character in front of characters in order. A mark moves behind the marks of
lower classes. -/
def insertMark (c : Char) : List Char → List Char
  | [] => [c]
  | next :: rest =>
    if combiningClass next ≠ 0 ∧ combiningClass next < combiningClass c then
      next :: insertMark c rest
    else c :: next :: rest

/-- The character that two characters compose to: its decomposition is that of the
first with the second behind it. -/
def composeChars? (first second : Char) : Option Char :=
  match Hangul.compose? first.toNat second.toNat with
  | some code => some (Char.ofNat code)
  | none =>
    let decomposition := (decomposeChar first ++ [second]).map Char.toNat
    ((composedRows.find? (·.tail == decomposition)).bind List.head?).map Char.ofNat

/-- Compose a character with those behind it. Marks that are not composed with it wait
behind it; one of them blocks marks of its class and of lower ones. -/
def composeOnto (starter : Char) (marks : List Char) : List Char → List Char
  | [] => starter :: marks
  | c :: rest =>
    let isFree := marks.getLast?.all fun mark => combiningClass mark < combiningClass c
    match if isFree then composeChars? starter c else none with
    | some composed => composeOnto composed marks rest
    | none =>
      if combiningClass c = 0 then starter :: marks ++ composeOnto c [] rest
      else composeOnto starter (marks ++ [c]) rest

/-- Compose characters in order. Marks in front of all other characters stay. -/
def compose : List Char → List Char
  | [] => []
  | c :: rest => if combiningClass c = 0 then composeOnto c [] rest else c :: compose rest

/-- Whether all characters are in ASCII. -/
def isAscii (chars : List Char) : Bool :=
  chars.all (·.toNat < 0x80)

/-- The composed normal form. -/
def normal (chars : List Char) : List Char :=
  if isAscii chars then chars
  else compose ((chars.flatMap decomposeChar).foldr insertMark [])

/-- Characters in ASCII are normal as they are. -/
theorem normal_of_isAscii {chars : List Char} (ascii : isAscii chars = true) :
    normal chars = chars := by
  rw [normal, if_pos ascii]

/-- What holds of each of the ASCII characters. -/
theorem char_cases_of_ascii {motive : Char → Prop}
    (all : ∀ code : Fin 128, motive (Char.ofNat code)) {c : Char} (ascii : c.toNat < 0x80) :
    motive c :=
  Char.ofNat_toNat c ▸ all ⟨c.toNat, ascii⟩

end Onboarding.Text
