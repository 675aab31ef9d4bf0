import Onboarding.Domain.ShapeTable
import Onboarding.Text.LetterCase
import Onboarding.Text.Normal

/-! # Labels of a domain name

A label is fit to be shown when it begins with no mark, when invisible joiners stand
only where they have an effect, and, in a name with right-to-left characters, when the
directions of its characters cannot make it run into its neighbours.
-/

namespace Onboarding.Domain

/-! ## Joiners -/

/-- The character that keeps its neighbours from joining. -/
def nonJoiner : Char := '\u200c'

/-- The character that makes its neighbours join. -/
def joiner : Char := '\u200d'

/-- The combining class of the marks that kill the vowel of a consonant. -/
def viramaClass : Nat := 9

/-- Whether the first character is in one of two tables once those that joining looks
through are skipped. -/
def joins (oneSided bothSided : List (Nat × Nat)) (chars : List Char) : Bool :=
  match chars.dropWhile fun c => Text.inRanges transparentRanges c.toNat with
  | c :: _ => Text.inRanges oneSided c.toNat || Text.inRanges bothSided c.toNat
  | [] => false

/-- Whether joiners have an effect, given the characters before in reverse. -/
def joinersFit (before : List Char) : List Char → Bool
  | [] => true
  | c :: rest =>
    let afterVirama := before.head?.any (Text.combiningClass · == viramaClass)
    let fits :=
      if c = nonJoiner then
        afterVirama ||
          (joins joinsLeftRanges joinsBothRanges before &&
            joins joinsRightRanges joinsBothRanges rest)
      else if c = joiner then afterVirama
      else true
    fits && joinersFit (c :: before) rest

/-! ## Directions -/

/-- How a character takes part in the direction of writing. -/
inductive Direction where
  | left
  | right
  | arabicLetter
  | arabicNumber
  | europeanNumber
  | europeanSeparator
  | europeanTerminator
  | commonSeparator
  | nonspacingMark
  | boundaryNeutral
  | otherNeutral
  deriving DecidableEq, Repr

namespace Direction

/-- The characters of each direction but left to right. -/
def table : List (Direction × List (Nat × Nat)) :=
  [(right, rightToLeftRanges), (arabicLetter, arabicLetterRanges),
    (arabicNumber, arabicNumberRanges), (europeanNumber, europeanNumberRanges),
    (europeanSeparator, europeanSeparatorRanges), (europeanTerminator, europeanTerminatorRanges),
    (commonSeparator, commonSeparatorRanges), (nonspacingMark, nonspacingMarkRanges),
    (boundaryNeutral, boundaryNeutralRanges), (otherNeutral, otherNeutralRanges)]

/-- The direction of a character. What the table does not list goes from left to right. -/
def ofChar (c : Char) : Direction :=
  ((table.find? fun row => Text.inRanges row.2 c.toNat).map Prod.fst).getD left

/-- Directions that make a name a right-to-left one. -/
def isRightToLeft (direction : Direction) : Bool :=
  [right, arabicLetter, arabicNumber].contains direction

/-- Directions that may stand in labels of both ways. -/
def isCommon (direction : Direction) : Bool :=
  [europeanNumber, europeanSeparator, commonSeparator, europeanTerminator, otherNeutral,
    boundaryNeutral, nonspacingMark].contains direction

/-- Whether the last direction, marks apart, is one of the given ones. -/
def endsIn (allowed directions : List Direction) : Bool :=
  match directions.reverse.dropWhile (· == nonspacingMark) with
  | last :: _ => allowed.contains last
  | [] => false

/-- Whether a label with such directions stays in its place. -/
def fit (directions : List Direction) : Bool :=
  match directions with
  | [] => true
  | first :: _ =>
    if [right, arabicLetter].contains first then
      directions.all (fun direction => direction.isRightToLeft || direction.isCommon) &&
        endsIn [right, arabicLetter, europeanNumber, arabicNumber] directions &&
        !(directions.contains europeanNumber && directions.contains arabicNumber)
    else if first = left then
      directions.all (fun direction => direction == left || direction.isCommon) &&
        endsIn [left, europeanNumber] directions
    else false

end Direction

/-! ## Labels -/

/-- Whether a label begins with a combining mark. -/
def beginsWithMark (label : List Char) : Bool :=
  label.head?.any fun c => Text.inRanges markRanges c.toNat

/-- Whether the labels of a name are fit to be shown. -/
def areFit (labels : List (List Char)) : Bool :=
  let directions := labels.map fun label => label.map Direction.ofChar
  labels.all (fun label => !beginsWithMark label && joinersFit [] label) &&
    (!directions.any (·.any Direction.isRightToLeft) || directions.all Direction.fit)

end Onboarding.Domain
