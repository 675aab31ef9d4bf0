import Onboarding.Text.CaseTable

/-! # Lower and upper case of a whole text

Letter case is mapped by the full Unicode rules. A character may become several,
and the capital sigma is lowered to its final form where it ends a word: it is
preceded by a cased letter and not followed by one, characters without case
influence being skipped on both sides. Upper case depends on single characters
only. Two texts are equal ignoring case when their lower cases are equal.
-/

namespace Onboarding.Text

/-- Whether a code point lies in one of the ranges. -/
def inRanges (ranges : List (Nat × Nat)) (code : Nat) : Bool :=
  ranges.any fun range => range.1 ≤ code && code ≤ range.2

/-- Whether a row of a case table moves a code point. -/
def CaseRun.covers (run : CaseRun) (code : Nat) : Bool :=
  run.first ≤ code && code ≤ run.last && (code - run.first) % run.step == 0

/-- The characters that a case table makes of one character: its own row for
several characters, else the row that moves it, else the character itself. -/
def mapCase (sequences : List (Nat × List Nat)) (runs : List CaseRun) (c : Char) : List Char :=
  match sequences.lookup c.toNat with
  | some codes => codes.map Char.ofNat
  | none =>
    match runs.find? (·.covers c.toNat) with
    | some run => [Char.ofNat (c.toNat + run.offset).toNat]
    | none => [c]

/-- The lower case of one character, apart from its neighbours. -/
def lowerChar (c : Char) : List Char :=
  if c.toNat < 0x80 then
    [if 0x41 ≤ c.toNat && c.toNat ≤ 0x5A then Char.ofNat (c.toNat + 32) else c]
  else mapCase lowerSequences lowerRuns c

/-- A character in upper case, which may take several characters. -/
def upperChar (c : Char) : List Char :=
  if c.toNat < 0x80 then
    [if 0x61 ≤ c.toNat && c.toNat ≤ 0x7A then Char.ofNat (c.toNat - 32) else c]
  else mapCase upperSequences upperRuns c

/-- The capital sigma, whose lower case depends on where it stands. -/
def capitalSigma : Char := '\u03A3'

/-- The small sigma within a word. -/
def smallSigma : Char := '\u03C3'

/-- The small sigma at the end of a word. -/
def finalSigma : Char := '\u03C2'

/-- Whether the characters begin with a cased letter once those without case
influence are skipped. -/
def startsCased (chars : List Char) : Bool :=
  match chars.dropWhile fun c => inRanges caseIgnorableRanges c.toNat with
  | c :: _ => inRanges casedRanges c.toNat
  | [] => false

/-- The lower case of the characters, given those before them in reverse. -/
def lowerChars (before : List Char) : List Char → List Char
  | [] => []
  | c :: rest =>
    (if c = capitalSigma then
        [if startsCased before && !startsCased rest then finalSigma else smallSigma]
      else lowerChar c) ++ lowerChars (c :: before) rest

/-- A text in lower case. -/
def lower (text : String) : String :=
  String.ofList (lowerChars [] text.toList)

/-- A text in upper case. -/
def upper (text : String) : String :=
  String.ofList (text.toList.flatMap upperChar)

/-- Two texts are equal ignoring case. -/
def sameIgnoringCase (left right : String) : Bool :=
  lower left == lower right

end Onboarding.Text
