import Onboarding.Yaml.Cursor
import Onboarding.Text.Hexadecimal

/-! # Scalars of a YAML text

A scalar is written plainly, between single or double quotes, or as a block of
lines. Inside a scalar a line end is folded into a space, and each further one is
kept, except in a literal block, where all are kept. Quotes are escaped by
doubling between single quotes and by backslashes between double quotes.

Every step takes at least one character, so a reader that may take more steps than
there are characters reads to the end; that number of steps is handed down.
-/

namespace Onboarding.Yaml

/-- The white space between two words of a scalar: the blanks of one line, or the
line ends. `endsLine` tells that a line has ended. -/
structure Gap where
  blanks : List Char
  firstBreak : List Char
  otherBreaks : List Char
  endsLine : Bool
  deriving Repr, Inhabited

namespace Gap

/-- No white space; a line may have ended by an escape. -/
def none (endsLine : Bool) : Gap := ⟨[], [], [], endsLine⟩

/-- What a gap means between two words. One line end becomes a space. -/
def folded (gap : Gap) : List Char :=
  if gap.endsLine then
    match gap.firstBreak with
    | ['\n'] => if gap.otherBreaks.isEmpty then [' '] else gap.otherBreaks
    | first => first ++ gap.otherBreaks
  else gap.blanks

/-- Read a gap. A tab may not stand left of the column `indent`, once a line has
ended. -/
def read (indent : Nat) : Nat → Gap → Cursor → Option (Gap × Cursor)
  | 0, gap, cursor => some (gap, cursor)
  | fuel + 1, gap, cursor =>
    match cursor.rest with
    | [] => some (gap, cursor)
    | c :: _ =>
      if isBlank c then
        if gap.endsLine && decide (cursor.column < indent) && c == '\t' then Option.none
        else if gap.endsLine then read indent fuel gap (cursor.skip 1)
        else read indent fuel { gap with blanks := gap.blanks ++ [c] } (cursor.skip 1)
      else if isBreak c then
        let gap :=
          if gap.endsLine then { gap with otherBreaks := gap.otherBreaks ++ cursor.lineEnd }
          else ⟨[], cursor.lineEnd, gap.otherBreaks, true⟩
        read indent fuel gap cursor.skipLine
      else some (gap, cursor)

end Gap

/-- The characters that end a plain scalar inside brackets. -/
def isFlowIndicator (c : Char) : Bool :=
  c = ',' || c = '[' || c = ']' || c = '{' || c = '}'

/-- The number of characters of a word of a plain scalar; nothing when a colon
inside brackets stands in front of an indicator. -/
def plainWord? (inFlow : Bool) : List Char → Option Nat
  | [] => some 0
  | c :: rest =>
    if isBlank c || isBreak c then some 0
    else if inFlow && c = ':' && (match rest with
        | next :: _ => isFlowIndicator next || next = '?'
        | [] => false) then none
    else if c = ':' && atGap rest then some 0
    else if inFlow && isFlowIndicator c then some 0
    else (plainWord? inFlow rest).map (· + 1)

/-- A scalar that was read: its text, the cursor behind it, and whether it ended
with the end of a line. -/
structure ScalarText where
  text : List Char
  cursor : Cursor
  endsLine : Bool

/-- Read a plain scalar, whose further lines have to reach the column `indent`
outside brackets. -/
def plainScalar? (inFlow : Bool) (indent : Nat) : Nat → List Char → Gap → Cursor →
    Option ScalarText
  | 0, text, gap, cursor => some ⟨text, cursor, gap.endsLine⟩
  | fuel + 1, text, gap, cursor =>
    if cursor.atDocumentMarker || cursor.rest.head? == some '#' then
      some ⟨text, cursor, gap.endsLine⟩
    else do
      let length ← plainWord? inFlow cursor.rest
      if length = 0 then return ⟨text, cursor, gap.endsLine⟩
      let text := text ++ gap.folded ++ cursor.rest.take length
      let cursor := cursor.skip length
      let (gap, after) ← Gap.read indent (fuel + 1) (Gap.none false) cursor
      if after.index = cursor.index then return ⟨text, cursor, false⟩
      if !inFlow && decide (after.column < indent) then return ⟨text, after, gap.endsLine⟩
      plainScalar? inFlow indent fuel text gap after

/-- The characters that escapes of one letter stand for. -/
def letterEscapes : List (Char × Char) :=
  [('0', '\x00'), ('a', '\x07'), ('b', '\x08'), ('t', '\t'), ('\t', '\t'), ('n', '\n'),
    ('v', '\x0b'), ('f', '\x0c'), ('r', '\r'), ('e', '\x1b'), (' ', ' '), ('\x22', '\x22'),
    ('/', '/'), ('\\', '\\'), ('N', '\u0085'), ('_', '\u00a0'), ('L', '\u2028'), ('P', '\u2029')]

/-- The number of digits of the escapes by number. -/
def numberEscapes : List (Char × Nat) :=
  [('x', 2), ('u', 4), ('U', 8)]

/-- The character that an escape stands for, and the length of the escape behind
its backslash. -/
def escape? : List Char → Option (Char × Nat)
  | [] => none
  | letter :: rest =>
    match letterEscapes.lookup letter with
    | some c => some (c, 1)
    | none => do
      let count ← numberEscapes.lookup letter
      if rest.length < count then none
      let code ← Text.hexNumber? (rest.take count)
      if (0xD800 ≤ code ∧ code ≤ 0xDFFF) ∨ 0x10FFFF < code then none
      return (Char.ofNat code, count + 1)

/-- How a quoted scalar is written. -/
inductive QuoteStyle where
  | single
  | double
  deriving DecidableEq, Repr

/-- The mark of a style, at both ends of a scalar. -/
def QuoteStyle.mark : QuoteStyle → Char
  | single => '\x27'
  | double => '\x22'

/-- Read a word of a quoted scalar: its characters, the cursor behind it, and
whether it ends with an escaped line end. -/
def quotedWord? (style : QuoteStyle) : Nat → Cursor → Option (List Char × Cursor × Bool)
  | 0, cursor => some ([], cursor, false)
  | fuel + 1, cursor =>
    match cursor.rest with
    | [] => some ([], cursor, false)
    | c :: rest =>
      let behind (meaning : Char) (length : Nat) : Option (List Char × Cursor × Bool) :=
        (quotedWord? style fuel (cursor.skip length)).map fun (word, after) =>
          (meaning :: word, after)
      if isBlank c || isBreak c then some ([], cursor, false)
      else if c = style.mark then
        if style = .single ∧ rest.head? = some style.mark then behind style.mark 2
        else some ([], cursor, false)
      else if style = .double ∧ c = '\\' then
        if rest ≠ [] ∧ atLineEnd rest then some ([], (cursor.skip 1).skipLine, true)
        else do
          let (meaning, length) ← escape? rest
          behind meaning (length + 1)
      else behind c 1

/-- Read a quoted scalar behind its opening quote. It may not be interrupted by a
document marker. -/
def quotedScalar? (style : QuoteStyle) : Nat → List Char → Cursor → Option ScalarText
  | 0, _, _ => none
  | fuel + 1, text, cursor =>
    if cursor.atDocumentMarker || cursor.rest.isEmpty then none
    else do
      let (word, cursor, escaped) ← quotedWord? style (fuel + 1) cursor
      let text := text ++ word
      if cursor.rest.head? = some style.mark then return ⟨text, cursor.skip 1, false⟩
      let (gap, cursor) ← Gap.read 0 (fuel + 1) (Gap.none escaped) cursor
      quotedScalar? style fuel (text ++ gap.folded) cursor

/-- What becomes of the line ends at the end of a block. -/
inductive Chomping where
  | strip
  | clip
  | keep
  deriving DecidableEq, Repr

/-- What becomes of line ends at the end of a scalar, by its indicator. -/
def Chomping.ofIndicator? : Char → Option Chomping
  | '-' => some strip
  | '+' => some keep
  | _ => none

/-- Read the indicators of a block: the chomping and the indentation, in either
order. -/
def blockIndicators? (cursor : Cursor) : Option (Chomping × Nat × Cursor) :=
  let digit (cursor : Cursor) : Option (Nat × Cursor) :=
    match cursor.rest with
    | c :: _ =>
      if c = '0' then none
      else if c.isDigit then some (c.toNat - 48, cursor.skip 1)
      else some (0, cursor)
    | [] => some (0, cursor)
  let chomping (cursor : Cursor) : Option (Chomping × Cursor) :=
    match cursor.rest with
    | c :: _ => (Chomping.ofIndicator? c).map (·, cursor.skip 1)
    | [] => none
  match chomping cursor with
  | some (kind, cursor) => (digit cursor).map fun (increment, cursor) => (kind, increment, cursor)
  | none => do
    let (increment, cursor) ← digit cursor
    if increment = 0 then return (.clip, 0, cursor)
    match chomping cursor with
    | some (kind, cursor) => return (kind, increment, cursor)
    | none => return (.clip, increment, cursor)

/-- Pass over indentation and empty lines in front of a line of a block. Zero as
the indentation means that it is not known yet. Returned are the line ends, the
deepest column that was reached, and the cursor. -/
def blockBreaks? (indent : Nat) : Nat → List Char → Nat → Cursor →
    Option (List Char × Nat × Cursor)
  | 0, breaks, deepest, cursor => some (breaks, deepest, cursor)
  | fuel + 1, breaks, deepest, cursor =>
    let spaces := (cursor.rest.takeWhile (· = ' ')).length
    let cursor := cursor.skip (if indent = 0 then spaces else min spaces (indent - cursor.column))
    let deepest := max deepest cursor.column
    match cursor.rest with
    | [] => some (breaks, deepest, cursor)
    | c :: _ =>
      if (indent = 0 ∨ cursor.column < indent) ∧ c = '\t' then none
      else if isBreak c then
        blockBreaks? indent fuel (breaks ++ cursor.lineEnd) deepest cursor.skipLine
      else some (breaks, deepest, cursor)

/-- A block in the course of reading: its text so far, the line end behind it and
those of the empty lines after that, and whether its last line began with a
blank. -/
structure BlockText where
  text : List Char
  lastBreak : List Char
  emptyLines : List Char
  indented : Bool

/-- Join the next line of a block. In a folded block a line end between two lines
that do not begin with a blank becomes a space, or gives way to empty lines. -/
def BlockText.join (block : BlockText) (literal : Bool) (line : List Char) : List Char :=
  let indented := match line with
    | c :: _ => isBlank c
    | [] => false
  let ending :=
    if !literal && block.lastBreak == ['\n'] && !block.indented && !indented then
      if block.emptyLines.isEmpty then [' '] else []
    else block.lastBreak
  block.text ++ ending ++ block.emptyLines ++ line

/-- Read the lines of a block of known indentation. -/
def blockLines? (literal : Bool) (indent : Nat) : Nat → BlockText → Cursor →
    Option (BlockText × Cursor)
  | 0, block, cursor => some (block, cursor)
  | fuel + 1, block, cursor =>
    if cursor.column ≠ indent ∨ cursor.rest.isEmpty then some (block, cursor)
    else do
      let line := cursor.rest.takeWhile (!isBreak ·)
      let text := block.join literal line
      let cursor := cursor.skip line.length
      let lastBreak := cursor.lineEnd
      let cursor := cursor.skipLine
      let (emptyLines, _, cursor) ← blockBreaks? indent (fuel + 1) [] 0 cursor
      let indented := match line with
        | c :: _ => isBlank c
        | [] => false
      blockLines? literal indent fuel ⟨text, lastBreak, emptyLines, indented⟩ cursor

/-- Read a block scalar behind its first indicator, inside a node that is indented
by `outer`, which is minus one at the top. -/
def blockScalar? (literal : Bool) (outer : Int) (fuel : Nat) (cursor : Cursor) :
    Option ScalarText := do
  let (chomping, increment, cursor) ← blockIndicators? cursor
  let cursor := cursor.skipComment
  if !atLineEnd cursor.rest then none
  let cursor := cursor.skipLine
  let given := if increment = 0 then 0 else (max outer 0).toNat + increment
  let (emptyLines, deepest, cursor) ← blockBreaks? given fuel [] 0 cursor
  let indent := if given = 0 then max deepest (max (outer + 1) 1).toNat else given
  let (block, cursor) ← blockLines? literal indent fuel ⟨[], [], emptyLines, false⟩ cursor
  let ending := match chomping with
    | .strip => []
    | .clip => block.lastBreak
    | .keep => block.lastBreak ++ block.emptyLines
  return ⟨block.text ++ ending, cursor, true⟩

end Onboarding.Yaml
