import Onboarding.Text.Splitting
import Onboarding.Url.PercentEncoding
import Onboarding.Url.Scheme

/-! # Paths

The path of a URL is a list of segments. A segment of two dots takes back the one
before it, and a segment of one dot stands for nothing; what remains is
percent-encoded. In the URL of a file a drive letter in front is followed by a colon,
and it is never taken back.
-/

namespace Onboarding.Path

/-- What stands between two slashes of a path. -/
abbrev Segment := List Char

/-- Texts that stand for one dot. -/
def isSingleDot (segment : Segment) : Bool :=
  [".".toList, "%2e".toList].contains (segment.map Char.toLower)

/-- Texts that stand for two dots. -/
def isDoubleDot (segment : Segment) : Bool :=
  ["..".toList, ".%2e".toList, "%2e.".toList, "%2e%2e".toList].contains
    (segment.map Char.toLower)

/-- The letter of a drive, with a colon or a bar behind it. -/
def driveLetter? : Segment → Option Char
  | [letter, mark] => if letter.isAlpha ∧ (mark = ':' ∨ mark = '|') then some letter else none
  | _ => none

/-- Whether a path is a drive and nothing else. -/
def isDrive (segments : List Segment) : Bool :=
  match segments with
  | [[letter, ':']] => letter.isAlpha
  | _ => false

/-- The path without its last segment. The path of a drive stays. -/
def shorten (kind : SchemeKind) (segments : List Segment) : List Segment :=
  if kind = .file ∧ isDrive segments then segments else segments.dropLast

/-- The path after one more segment. A path that ends with dots ends with a slash. -/
def add (kind : SchemeKind) (segments : List Segment) (segment : Segment) (isLast : Bool) :
    List Segment :=
  let closed (segments : List Segment) := if isLast then segments ++ [[]] else segments
  if isDoubleDot segment then closed (shorten kind segments)
  else if isSingleDot segment then closed segments
  else if kind = .file ∧ segments = [] then
    match driveLetter? segment with
    | some letter => [[letter, ':']]
    | none => [segment]
  else segments ++ [segment]

/-- The segments are added one after the other, encoded. Only the last may stand for a
directory. -/
def addAll (kind : SchemeKind) (segments : List Segment) : List Segment → List Segment
  | [] => segments
  | segment :: rest =>
    addAll kind (add kind segments (Percent.encode Percent.inPath segment) rest.isEmpty) rest

/-- Split a text at every slash of a scheme. -/
def split (kind : SchemeKind) (text : List Char) : List Segment :=
  Text.splitAt '/' (text.map fun c => if kind.isSlash c then '/' else c)

/-- Read the path behind the host of a URL. It is empty only where a scheme allows
that; a slash in front separates it from the host. -/
def read (kind : SchemeKind) (text : List Char) : List Segment :=
  match text with
  | [] => if kind = .general then [] else [[]]
  | c :: rest => addAll kind [] (split kind (if kind.isSlash c then rest else c :: rest))

/-- A path as it is written: a slash in front of every segment. -/
def write (segments : List Segment) : List Char :=
  segments.flatMap ('/' :: ·)

end Onboarding.Path
