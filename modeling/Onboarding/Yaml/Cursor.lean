/-! # A place in a YAML text

A cursor is the rest of a text together with the place where it stands. A line
ends with a line feed, a carriage return, both together, a next-line character or
one of the two Unicode separators. All but the separators are folded into a line
feed when they belong to a value.
-/

namespace Onboarding.Yaml

/-- A character that ends a line. -/
def isBreak (c : Char) : Bool :=
  c = '\n' || c = '\r' || c = '\u0085' || c = '\u2028' || c = '\u2029'

/-- A space or a tab. -/
def isBlank (c : Char) : Bool :=
  c = ' ' || c = '\t'

/-- Whether the text ends here, or a blank or line end stands here. -/
def atGap : List Char → Bool
  | [] => true
  | c :: _ => isBlank c || isBreak c

/-- Whether the text or a line ends here. -/
def atLineEnd : List Char → Bool
  | [] => true
  | c :: _ => isBreak c

/-- A letter, digit, dash or underscore. -/
def isWordChar (c : Char) : Bool :=
  c.isAlphanum || c = '-' || c = '_'

/-- The characters that a text may hold at all. -/
def isAllowed (c : Char) : Bool :=
  let code := c.toNat
  code == 0x09 || code == 0x0A || code == 0x0D || (0x20 ≤ code && code ≤ 0x7E) || code == 0x85 ||
    (0xA0 ≤ code && code ≤ 0xD7FF) || (0xE000 ≤ code && code ≤ 0xFFFD) || 0x10000 ≤ code

/-- The rest of a text, the number of the line and the column where it begins, and
the number of characters before it. -/
structure Cursor where
  rest : List Char
  line : Nat
  column : Nat
  index : Nat
  deriving Repr, Inhabited

namespace Cursor

/-- The beginning of a text. -/
def start (text : List Char) : Cursor := ⟨text, 0, 0, 0⟩

/-- Pass over characters within a line. -/
def skip (cursor : Cursor) (count : Nat) : Cursor :=
  { cursor with
    rest := cursor.rest.drop count
    column := cursor.column + count
    index := cursor.index + count }

/-- Pass over the characters of a class, within a line. -/
def skipWhile (cursor : Cursor) (accepted : Char → Bool) : Cursor :=
  cursor.skip (cursor.rest.takeWhile accepted).length

/-- Pass over a line end, if there is one. -/
def skipLine (cursor : Cursor) : Cursor :=
  match cursor.rest with
  | '\r' :: '\n' :: rest => ⟨rest, cursor.line + 1, 0, cursor.index + 2⟩
  | c :: rest => if isBreak c then ⟨rest, cursor.line + 1, 0, cursor.index + 1⟩ else cursor
  | [] => cursor

/-- What a line end at the cursor means inside a value; nothing if there is none. -/
def lineEnd (cursor : Cursor) : List Char :=
  match cursor.rest with
  | c :: _ =>
    if c = '\u2028' ∨ c = '\u2029' then [c]
    else if isBreak c then ['\n']
    else []
  | [] => []

/-- Pass over blanks and a comment, up to the end of the line. -/
def skipComment (cursor : Cursor) : Cursor :=
  let cursor := cursor.skipWhile isBlank
  match cursor.rest with
  | '#' :: _ => cursor.skipWhile (!isBreak ·)
  | _ => cursor

/-- Whether a document marker of three given characters stands at the cursor. -/
def atMarker (cursor : Cursor) (mark : Char) : Bool :=
  cursor.column == 0 &&
    match cursor.rest with
    | a :: b :: c :: rest => a == mark && b == mark && c == mark && atGap rest
    | _ => false

/-- Whether a document begins or ends at the cursor. -/
def atDocumentMarker (cursor : Cursor) : Bool :=
  cursor.atMarker '-' || cursor.atMarker '.'

end Cursor

end Onboarding.Yaml
