import Onboarding.Yaml.Scalar

/-! # The tokens of a YAML text

A text is a row of tokens: indicators, scalars, names, and the beginnings and ends
of blocks, which follow from the indentation. That a scalar is a key shows only at
the colon behind it, so the places where a key may begin are remembered, and the
colon puts a key token in front of what it names. Such a key lies on one line and
has at most 1024 characters.
-/

namespace Onboarding.Yaml

/-- How a scalar is written. -/
inductive ScalarStyle where
  | plain
  | quoted
  | literal
  | folded
  deriving DecidableEq, Repr

/-- What a text is made of, apart from blanks and comments. -/
inductive Token where
  | version (major minor : Nat)
  | tagHandle (handle prefixText : String)
  | documentStart
  | documentEnd
  | blockSequence
  | blockMapping
  | blockEnd
  | flowSequence
  | flowSequenceEnd
  | flowMapping
  | flowMappingEnd
  | blockEntry
  | flowEntry
  | key
  | value
  | alias (name : String)
  | anchor (name : String)
  | tag (handle suffix : String)
  | scalar (style : ScalarStyle) (text : String)
  deriving DecidableEq, Repr

/-- A place where a key may begin: the number of tokens before it, and where it
stands. A required key has to turn out to be one. -/
structure KeyPlace where
  required : Bool
  token : Nat
  line : Nat
  column : Nat
  index : Nat
  deriving Repr

/-- The state of the division into tokens. `keys` holds, innermost first, for each
open bracket and for the block around them the place where a key may have begun. -/
structure Scan where
  cursor : Cursor
  tokens : Array Token
  indent : Int
  outer : List Int
  keyAllowed : Bool
  keys : List (Option KeyPlace)

namespace Scan

/-- The scan of a text at its start. -/
def start (text : List Char) : Scan :=
  ⟨.start text, #[], -1, [], true, [none]⟩

/-- Whether the scan is within brackets. -/
def inFlow (scan : Scan) : Bool := decide (1 < scan.keys.length)

/-- One more token. -/
def push (scan : Scan) (token : Token) : Scan :=
  { scan with tokens := scan.tokens.push token }

/-- The scan goes on at a place. -/
def moveTo (scan : Scan) (cursor : Cursor) : Scan :=
  { scan with cursor }

/-- End the blocks that are indented deeper than a column. -/
def unroll (column : Int) : List Int → Scan → Scan
  | [], scan => scan
  | indent :: outer, scan =>
    if column < scan.indent then
      unroll column outer { scan.push .blockEnd with indent, outer }
    else scan

/-- End the blocks that are indented deeper than a column, outside brackets. -/
def dedent (scan : Scan) (column : Int) : Scan :=
  if scan.inFlow then scan else unroll column scan.outer scan

/-- Begin a block at a column, unless it is no deeper than the block around it. The
token that begins it goes to a position among the tokens. -/
def indentTo (scan : Scan) (column : Nat) (position : Nat) (token : Token) : Scan :=
  if scan.inFlow ∨ (column : Int) ≤ scan.indent then scan
  else
    { scan with
      tokens := scan.tokens.insertIdxIfInBounds position token
      indent := column
      outer := scan.indent :: scan.outer }

/-- Forget the innermost key place, which must not be required. -/
def dropKey (scan : Scan) : Option Scan :=
  match scan.keys with
  | some place :: keys => if place.required then none else some { scan with keys := none :: keys }
  | _ => some scan

/-- Remember that a key may begin here. -/
def markKey (scan : Scan) : Option Scan :=
  if scan.keyAllowed then do
    let place : KeyPlace :=
      { required := !scan.inFlow && scan.indent == scan.cursor.column
        token := scan.tokens.size
        line := scan.cursor.line
        column := scan.cursor.column
        index := scan.cursor.index }
    let scan ← scan.dropKey
    return { scan with keys := some place :: scan.keys.tail }
  else some scan

/-- Whether a place is too far behind for its key to be completed. -/
def KeyPlace.isStale (place : KeyPlace) (cursor : Cursor) : Bool :=
  decide (place.line < cursor.line) || decide (place.index + 1024 < cursor.index)

/-- Forget the key places that are too far behind, which must not be required. -/
def dropStale (scan : Scan) : Option Scan := do
  let keys ← scan.keys.mapM fun place =>
    match place with
    | none => some none
    | some place =>
      if !KeyPlace.isStale place scan.cursor then some (some place)
      else if place.required then none
      else some none
  return { scan with keys }

/-- Pass over white space, comments and line ends in front of a token. Tabs do not
count as white space where a key may begin outside brackets. -/
def skipGaps : Nat → Scan → Scan
  | 0, scan => scan
  | fuel + 1, scan =>
    let cursor := scan.cursor
    let cursor := if cursor.column = 0 ∧ cursor.rest.head? = some '\uFEFF' then cursor.skip 1
      else cursor
    let cursor := cursor.skipWhile fun c =>
      c = ' ' || (c = '\t' && (scan.inFlow || !scan.keyAllowed))
    let cursor := match cursor.rest with
      | '#' :: _ => cursor.skipWhile (!isBreak ·)
      | _ => cursor
    match cursor.rest with
    | c :: _ =>
      if isBreak c then
        skipGaps fuel
          { scan.moveTo cursor.skipLine with keyAllowed := scan.keyAllowed || !scan.inFlow }
      else scan.moveTo cursor
    | [] => scan.moveTo cursor

/-- A run of word characters, which may be empty, and the cursor behind it. -/
def word (cursor : Cursor) : String × Cursor :=
  (String.ofList (cursor.rest.takeWhile isWordChar), cursor.skipWhile isWordChar)

/-- A number of up to nine digits. -/
def versionNumber? (cursor : Cursor) : Option (Nat × Cursor) :=
  let digits := cursor.rest.takeWhile Char.isDigit
  if digits.isEmpty ∨ 9 < digits.length then none
  else
    some (digits.foldl (fun value c => value * 10 + (c.toNat - 48)) 0, cursor.skip digits.length)

/-- The number of bytes of a character that begins with a byte. -/
def encodedLength? (byte : Nat) : Option Nat :=
  if byte < 0x80 then some 1
  else if 0xC0 ≤ byte ∧ byte < 0xE0 then some 2
  else if 0xE0 ≤ byte ∧ byte < 0xF0 then some 3
  else if 0xF0 ≤ byte ∧ byte < 0xF8 then some 4
  else none

/-- The byte of an escape in a tag. -/
def tagByte? : List Char → Option (Nat × List Char)
  | '%' :: high :: low :: rest => (Text.hexNumber? [high, low]).map (·, rest)
  | _ => none

/-- The bytes of further escapes in a tag. -/
def tagBytes? : Nat → List Char → Option (List Nat × List Char)
  | 0, rest => some ([], rest)
  | count + 1, rest => do
    let (byte, rest) ← tagByte? rest
    if byte < 0x80 ∨ 0xC0 ≤ byte then none
    let (bytes, rest) ← tagBytes? count rest
    return (byte :: bytes, rest)

/-- The character of a row of escapes in a tag. -/
def tagEscape? (chars : List Char) : Option (Char × List Char) := do
  let (first, rest) ← tagByte? chars
  let length ← encodedLength? first
  let (others, rest) ← tagBytes? (length - 1) rest
  let bytes := ByteArray.mk ((first :: others).map (·.toUInt8)).toArray
  let text ← String.fromUTF8? bytes
  match text.toList with
  | [c] => some (c, rest)
  | _ => none

/-- Whether a character may stand in a tag; inside angle brackets there are more. -/
def isTagChar (inBrackets : Bool) (c : Char) : Bool :=
  isWordChar c || ";/?:@&=+$.!~*'()%".toList.contains c ||
    (inBrackets && (c = ',' || c = '[' || c = ']'))

/-- The text of a tag, with its escapes replaced, and what follows it. -/
def tagText? (inBrackets : Bool) : Nat → List Char → Option (List Char × List Char)
  | 0, rest => some ([], rest)
  | _, [] => some ([], [])
  | fuel + 1, c :: rest =>
    if c = '%' then do
      let (meaning, rest) ← tagEscape? (c :: rest)
      let (others, rest) ← tagText? inBrackets fuel rest
      return (meaning :: others, rest)
    else if isTagChar inBrackets c then do
      let (others, rest) ← tagText? inBrackets fuel rest
      return (c :: others, rest)
    else some ([], c :: rest)

/-- Read the rest of a tag from a cursor; it has at least `least` characters. -/
def tagRest? (inBrackets : Bool) (least : Nat) (cursor : Cursor) :
    Option (String × Cursor) := do
  let (text, rest) ← tagText? inBrackets (cursor.rest.length + 1) cursor.rest
  if text.length < least then none
  return (String.ofList text, cursor.skip (cursor.rest.length - rest.length))

/-- Read a tag handle, an exclamation mark with a word and perhaps another mark. -/
def tagHandle? (cursor : Cursor) : Option (String × Cursor) :=
  match cursor.rest with
  | '!' :: _ =>
    let (name, after) := word (cursor.skip 1)
    match after.rest with
    | '!' :: _ => some ("!" ++ name ++ "!", after.skip 1)
    | _ => some ("!" ++ name, after)
  | _ => none

/-- A version: two numbers with a dot between them. -/
def versionValue? (cursor : Cursor) : Option (Token × Cursor) := do
  let (major, cursor) ← versionNumber? cursor
  if cursor.rest.head? ≠ some '.' then none
  else
    let (minor, cursor) ← versionNumber? (cursor.skip 1)
    return (.version major minor, cursor)

/-- The value of a tag directive: a handle, and what it stands for. -/
def tagHandleValue? (cursor : Cursor) : Option (Token × Cursor) := do
  let (handle, cursor) ← tagHandle? cursor
  let blankNext := match cursor.rest with
    | c :: _ => isBlank c
    | [] => false
  if !blankNext ∨ (handle ≠ "!" ∧ !(handle.endsWith "!")) then none
  else
    let (text, cursor) ← tagRest? true 1 (cursor.skipWhile isBlank)
    if atGap cursor.rest then return (.tagHandle handle text, cursor) else none

/-- A directive, to the end of its line. -/
def directive? (cursor : Cursor) : Option (Token × Cursor) := do
  let (name, cursor) := word cursor
  if !atGap cursor.rest then none
  else
    let cursor := cursor.skipWhile isBlank
    let (token, cursor) ←
      if name = "YAML" then versionValue? cursor
      else if name = "TAG" then tagHandleValue? cursor
      else none
    let cursor := cursor.skipComment
    if atLineEnd cursor.rest then return (token, cursor.skipLine) else none

/-- Read a tag that is given in full, between angle brackets. -/
def fullTag? (cursor : Cursor) : Option (Token × Cursor) := do
  let (suffix, cursor) ← tagRest? true 1 cursor
  if cursor.rest.head? = some '>' then return (.tag "" suffix, cursor.skip 1) else none

/-- Read a tag that begins with a handle. One exclamation mark alone is a tag. -/
def shortTag? (cursor : Cursor) : Option (Token × Cursor) := do
  let (handle, after) ← tagHandle? cursor
  if handle.length ≠ 1 ∧ handle.endsWith "!" then
    let (suffix, cursor) ← tagRest? false 1 after
    return (.tag handle suffix, cursor)
  else
    let (suffix, cursor) ← tagRest? false 0 after
    let suffix := String.ofList (handle.toList.drop 1) ++ suffix
    return (if suffix.isEmpty then .tag "" "!" else .tag "!" suffix, cursor)

/-- A tag, in full or short, and the gap that must follow it. -/
def tag? (inFlow : Bool) (cursor : Cursor) : Option (Token × Cursor) := do
  let (token, cursor) ←
    if (cursor.rest.drop 1).head? = some '<' then fullTag? (cursor.skip 2) else shortTag? cursor
  if atGap cursor.rest ∨ (inFlow ∧ cursor.rest.head? = some ',') then return (token, cursor)
  else none

/-- Read the name of an anchor or alias behind its indicator. -/
def name? (cursor : Cursor) : Option (String × Cursor) :=
  let (name, cursor) := word cursor
  let ended := atGap cursor.rest ||
    match cursor.rest with
    | c :: _ => "?:,]\x7d%@\x60".toList.contains c
    | [] => true
  if name.isEmpty ∨ !ended then none else some (name, cursor)

/-- The characters that no plain scalar begins with, unless they belong to a word. -/
def indicators : List Char :=
  "-?:,[]\x7b\x7d#&*!|>'\"%@\x60".toList

/-- Whether a plain scalar may begin here. -/
def atPlain (inFlow : Bool) : List Char → Bool
  | [] => false
  | c :: rest =>
    let blankNext := match rest with
      | next :: _ => isBlank next
      | [] => false
    (!isBlank c && !isBreak c && !indicators.contains c) || (c = '-' && !blankNext) ||
      (!inFlow && (c = '?' || c = ':') && !atGap rest)

/-- Read a document marker or a directive at the beginning of a line. -/
def outside (scan : Scan) (token : Token) (cursor : Cursor) : Option Scan := do
  let scan ← (scan.dedent (-1)).dropKey
  return { (scan.push token).moveTo cursor with keyAllowed := false }

/-- A bracket opens, behind which a key may stand. -/
def openBracket (scan : Scan) (token : Token) : Option Scan := do
  let scan ← scan.markKey
  return { (scan.push token).moveTo (scan.cursor.skip 1) with
    keys := none :: scan.keys
    keyAllowed := true }

/-- A bracket closes, behind which no key may stand. -/
def closeBracket (scan : Scan) (token : Token) : Option Scan := do
  let scan ← scan.dropKey
  return { (scan.push token).moveTo (scan.cursor.skip 1) with
    keys := if scan.inFlow then scan.keys.tail else scan.keys
    keyAllowed := false }

/-- A comma stands between two entries. -/
def separate (scan : Scan) : Option Scan := do
  let scan ← scan.dropKey
  return { (scan.push .flowEntry).moveTo (scan.cursor.skip 1) with keyAllowed := true }

/-- A dash begins an entry of a sequence in block style. -/
def beginEntry (scan : Scan) : Option Scan := do
  if !scan.inFlow && !scan.keyAllowed then none
  let scan := scan.indentTo scan.cursor.column scan.tokens.size .blockSequence
  let scan ← scan.dropKey
  return { (scan.push .blockEntry).moveTo (scan.cursor.skip 1) with keyAllowed := true }

/-- Begin a key with an indicator of its own. -/
def beginKey (scan : Scan) : Option Scan := do
  if !scan.inFlow && !scan.keyAllowed then none
  let scan := scan.indentTo scan.cursor.column scan.tokens.size .blockMapping
  let scan ← scan.dropKey
  return { (scan.push .key).moveTo (scan.cursor.skip 1) with keyAllowed := !scan.inFlow }

/-- Begin a value. If a key may have begun before, it did. -/
def beginValue (scan : Scan) : Option Scan := do
  let scan ←
    match scan.keys with
    | some place :: keys =>
      let scan := { scan with
        tokens := scan.tokens.insertIdxIfInBounds place.token .key
        keys := none :: keys
        keyAllowed := false }
      some (scan.indentTo place.column place.token .blockMapping)
    | _ =>
      if !scan.inFlow && !scan.keyAllowed then none
      else
        let scan := scan.indentTo scan.cursor.column scan.tokens.size .blockMapping
        some { scan with keyAllowed := !scan.inFlow }
  return (scan.push .value).moveTo (scan.cursor.skip 1)

/-- Take over a token that may be a key. -/
def content (scan : Scan) (read : Cursor → Option (Token × Cursor)) : Option Scan := do
  let scan ← scan.markKey
  let (token, cursor) ← read scan.cursor
  return { (scan.push token).moveTo cursor with keyAllowed := false }

/-- A scalar is found. -/
def scalar (scan : Scan) (style : ScalarStyle) (found : ScalarText) : Scan :=
  (scan.push (.scalar style (String.ofList found.text))).moveTo found.cursor

/-- A scalar in block style, behind which a key may stand. -/
def block (scan : Scan) (style : ScalarStyle) (fuel : Nat) : Option Scan := do
  let scan ← scan.dropKey
  let found ← blockScalar? (style = .literal) scan.indent fuel (scan.cursor.skip 1)
  return { scan.scalar style found with keyAllowed := true }

/-- A scalar between quotes, which may be a key itself. -/
def quotedText (scan : Scan) (style : QuoteStyle) (fuel : Nat) : Option Scan := do
  let scan ← scan.markKey
  let found ← quotedScalar? style fuel [] (scan.cursor.skip 1)
  return { scan.scalar .quoted found with keyAllowed := false }

/-- Read a plain scalar. One that ends with its line may be followed by a key. -/
def plainText (scan : Scan) (fuel : Nat) : Option Scan := do
  let scan ← scan.markKey
  let found ← plainScalar? scan.inFlow (scan.indent + 1).toNat fuel [] (.none false) scan.cursor
  return { scan.scalar .plain found with keyAllowed := found.endsLine }

/-- The next token, by the character that it begins with. -/
def token (scan : Scan) (fuel : Nat) : Option Scan :=
  let cursor := scan.cursor
  let named (make : String → Token) (cursor : Cursor) : Option (Token × Cursor) :=
    (name? (cursor.skip 1)).map fun (name, cursor) => (make name, cursor)
  match cursor.rest with
  | [] => some scan
  | c :: rest =>
    if cursor.column = 0 ∧ c = '%' then do
      let (token, after) ← directive? (cursor.skip 1)
      scan.outside token after
    else if cursor.atMarker '-' then scan.outside .documentStart (cursor.skip 3)
    else if cursor.atMarker '.' then scan.outside .documentEnd (cursor.skip 3)
    else if c = '[' then scan.openBracket .flowSequence
    else if c = '{' then scan.openBracket .flowMapping
    else if c = ']' then scan.closeBracket .flowSequenceEnd
    else if c = '}' then scan.closeBracket .flowMappingEnd
    else if c = ',' then scan.separate
    else if c = '-' ∧ atGap rest then scan.beginEntry
    else if c = '?' ∧ (scan.inFlow ∨ atGap rest) then scan.beginKey
    else if c = ':' ∧ (scan.inFlow ∨ atGap rest) then scan.beginValue
    else if c = '*' then scan.content (named .alias)
    else if c = '&' then scan.content (named .anchor)
    else if c = '!' then scan.content (tag? scan.inFlow)
    else if c = '|' ∧ !scan.inFlow then scan.block .literal fuel
    else if c = '>' ∧ !scan.inFlow then scan.block .folded fuel
    else if c = '\x27' then scan.quotedText .single fuel
    else if c = '\x22' then scan.quotedText .double fuel
    else if atPlain scan.inFlow cursor.rest then scan.plainText fuel
    else none

/-- End the text: all blocks end, and no key is left open. -/
def finish (scan : Scan) : Option Scan :=
  (scan.dedent (-1)).dropKey

/-- Read all tokens. Every token takes at least one character, so the fuel stays
above the number of characters that are left. -/
def all : Nat → Scan → Option Scan
  | 0, _ => none
  | fuel + 1, scan => do
    let scan ← (skipGaps (fuel + 1) scan).dropStale
    let scan := scan.dedent scan.cursor.column
    if scan.cursor.rest.isEmpty then scan.finish
    else all fuel (← scan.token (fuel + 1))

end Scan

/-- The tokens of a text; nothing if it is no YAML. -/
def tokens? (text : String) : Option (List Token) :=
  if text.toList.all isAllowed then
    let chars := match text.toList with
      | '\uFEFF' :: rest => rest
      | chars => chars
    (Scan.all (chars.length + 2) (.start chars)).map (·.tokens.toList)
  else none

end Onboarding.Yaml
