import Onboarding.Json.Value
import Onboarding.Text.Encoding
import Onboarding.Text.Hexadecimal

/-! # Drafts: what a JSON text says, faults included

A text is read as it goes along, and what is asked of a part of it decides which
fault is met first. A draft is therefore a tree that keeps the faults of the text
in their places: a part that is no JSON is a broken node, and nothing stands
behind it. A number too large to hold and a string with unpaired surrogates are
well formed and can be passed over, but not read.

A text is taken apart byte by byte, with each byte as the character of its number.
All that JSON itself is made of are bytes of one character each; and whether the
bytes of a string are a text is asked of each string alone, so that bytes that are
none can be passed over as well.
-/

namespace Onboarding.Json

/-- A JSON text taken apart, with its faults. -/
inductive Draft where
  | null
  | bool (value : Bool)
  | number (value : JsonNumber)
  /-- A well-formed number too large to hold. -/
  | hugeNumber
  | string (value : String)
  /-- A well-formed string that is no text. -/
  | strangeString
  /-- The items of an array; the last is broken when the array is not closed as
  it should be. -/
  | array (items : List Draft)
  /-- The members of an object, and what stands where the next key or the closing
  brace should, if that is something else. -/
  | object (members : List (String × Draft)) (stray : Option Draft)
  /-- The value of a member whose key is well formed, but no text. -/
  | unkeyed (content : Draft)
  /-- Something that is no JSON. -/
  | broken
  deriving Repr, Inhabited

namespace Draft

open Text.Utf16

/-- White space between the parts of a JSON text. -/
def isSpace (c : Char) : Bool :=
  c = ' ' || c = '\n' || c = '\t' || c = '\r'

/-- The rest of a text after white space. -/
def skipSpace (chars : List Char) : List Char :=
  chars.dropWhile isSpace

/-- A string up to its closing quote. -/
inductive Quoted where
  /-- The text of the string, and what stands behind the quote. -/
  | text (text : String) (rest : List Char)
  /-- Well formed, but with an unpaired surrogate or bytes that are no text. -/
  | strange (rest : List Char)
  /-- Not closed, or with a faulty character or escape. -/
  | broken

/-- The characters that are escaped by one letter, each behind its letter. -/
def shortEscapes : List (Char × Char) :=
  [('\x22', '\x22'), ('\\', '\\'), ('/', '/'), ('b', '\x08'), ('f', '\x0c'), ('n', '\n'),
    ('r', '\r'), ('t', '\t')]

/-- Close a string, when its bytes are known, last first. -/
def closeQuoted (before : List UInt8) (isStrange : Bool) (rest : List Char) : Quoted :=
  match String.fromUTF8? ⟨before.reverse.toArray⟩ with
  | some text => if isStrange then .strange rest else .text text rest
  | none => .strange rest

/-- The bytes of a character in front of other bytes, last first. -/
def prepend (c : Char) (before : List UInt8) : List UInt8 :=
  (Text.Utf8.encodeChar c).reverse ++ before

/-- Read a string behind its opening quote. `before` holds the bytes read so far, last
first; `isStrange` tells that there was an unpaired surrogate. -/
def quotedText (before : List UInt8) (isStrange : Bool) : List Char → Quoted
  | [] => .broken
  | '\x22' :: rest => closeQuoted before isStrange rest
  | '\\' :: 'u' :: a :: b :: c :: d :: rest =>
    match Text.hexNumber? [a, b, c, d] with
    | none => .broken
    | some first =>
      if isLowSurrogate first then quotedText before true rest
      else if isHighSurrogate first then
        match rest with
        | '\\' :: 'u' :: e :: f :: g :: h :: after =>
          match Text.hexNumber? [e, f, g, h] with
          | none => .broken
          | some second =>
            if isLowSurrogate second then
              quotedText (prepend (pairedChar first second) before) isStrange after
            else quotedText before true ('\\' :: 'u' :: e :: f :: g :: h :: after)
        | rest => quotedText before true rest
      else quotedText (prepend (Char.ofNat first) before) isStrange rest
  | '\\' :: escape :: rest =>
    match shortEscapes.lookup escape with
    | some c => quotedText (prepend c before) isStrange rest
    | none => .broken
  | c :: rest =>
    if c.toNat < 0x20 ∨ c = '\\' then .broken
    else quotedText (c.toUInt8 :: before) isStrange rest

/-- Split off the decimal digits at the start. -/
def digits (chars : List Char) : List Nat × List Char :=
  ((chars.takeWhile Char.isDigit).map (fun c => c.toNat - 48), chars.dropWhile Char.isDigit)

/-- The largest number that a significand may be. -/
def significandLimit : Nat := 0xFFFFFFFFFFFFFFFF

/-- Take digits into a significand while it stays within its limit. Returned with
it are the digits that were left over. -/
def takeDigits : Nat → List Nat → Nat × List Nat
  | significand, [] => (significand, [])
  | significand, digit :: rest =>
    if significand * 10 + digit ≤ significandLimit then
      takeDigits (significand * 10 + digit) rest
    else (significand, digit :: rest)

/-- A number as it is written: a whole part, the digits of a fraction and a power
of ten, where they are present. -/
structure Numeral where
  negative : Bool
  whole : List Nat
  fraction : Option (List Nat)
  power : Option Int

/-- The number that a numeral stands for, if it is not too large. -/
def Numeral.number? (numeral : Numeral) : Option JsonNumber :=
  let (whole, dropped) := takeDigits 0 numeral.whole
  match numeral.fraction, numeral.power, dropped with
  | none, none, [] =>
    if numeral.negative then
      if whole = 0 ∨ 0x8000000000000000 < whole then
        (Number.ofDecimal? true whole.toUInt64 0).map .binary
      else some (.integer (-whole))
    else some (.integer whole)
  | _, _, _ =>
    let fraction := numeral.fraction.getD []
    let (significand, unread) := takeDigits whole fraction
    let exponent : Int := (dropped.length : Int) - ((fraction.length - unread.length : Nat) : Int)
    (Number.ofDecimal? numeral.negative significand.toUInt64
      (exponent + numeral.power.getD 0)).map .binary

/-- The number that digits stand for. -/
def digitsValue (digits : List Nat) : Nat :=
  digits.foldl (fun value digit => value * 10 + digit) 0

/-- Read the power of ten of a numeral, if there is one. -/
def power? : List Char → Option (Option Int × List Char)
  | c :: rest =>
    if c = 'e' ∨ c = 'E' then
      let (sign, rest) : Int × List Char :=
        match rest with
        | '+' :: rest => (1, rest)
        | '-' :: rest => (-1, rest)
        | rest => (1, rest)
      match digits rest with
      | ([], _) => none
      | (power, rest) => some (some (sign * digitsValue power), rest)
    else some (none, c :: rest)
  | [] => some (none, [])

/-- Read a numeral behind its sign. A whole part does not begin with an idle
zero, and a fraction has a digit. -/
def numeral? (negative : Bool) (chars : List Char) : Option (Numeral × List Char) :=
  match digits chars with
  | ([], _) => none
  | (0 :: _ :: _, _) => none
  | (whole, '.' :: rest) =>
    match digits rest with
    | ([], _) => none
    | (fraction, rest) => do
      let (power, rest) ← power? rest
      return (⟨negative, whole, some fraction, power⟩, rest)
  | (whole, rest) => do
    let (power, rest) ← power? rest
    return (⟨negative, whole, none, power⟩, rest)

/-- The draft of a numeral, and the text behind it. -/
def ofNumeral (negative : Bool) (chars : List Char) : Draft × List Char :=
  match numeral? negative chars with
  | none => (broken, [])
  | some (numeral, rest) =>
    match numeral.number? with
    | some value => (number value, rest)
    | none => (hugeNumber, rest)

mutual

/-- The draft at the start of a text, and the text behind it. -/
def value : Nat → List Char → Draft × List Char
  | 0, _ => (broken, [])
  | fuel + 1, chars =>
    match skipSpace chars with
    | 'n' :: 'u' :: 'l' :: 'l' :: rest => (null, rest)
    | 't' :: 'r' :: 'u' :: 'e' :: rest => (bool true, rest)
    | 'f' :: 'a' :: 'l' :: 's' :: 'e' :: rest => (bool false, rest)
    | '\x22' :: rest =>
      match quotedText [] false rest with
      | .text text rest => (string text, rest)
      | .strange rest => (strangeString, rest)
      | .broken => (broken, [])
    | '-' :: rest => ofNumeral true rest
    | '[' :: rest =>
      match skipSpace rest with
      | ']' :: rest => (array [], rest)
      | rest =>
        let (found, rest) := items fuel rest
        (array found, rest)
    | '{' :: rest =>
      match skipSpace rest with
      | '}' :: rest => (object [] none, rest)
      | rest =>
        let (found, stray, rest) := members fuel rest
        (object found stray, rest)
    | c :: rest => if c.isDigit then ofNumeral false (c :: rest) else (broken, [])
    | [] => (broken, [])

/-- The items of an array up to its end, from an item on. -/
def items : Nat → List Char → List Draft × List Char
  | 0, _ => ([broken], [])
  | fuel + 1, chars =>
    let (item, rest) := value fuel chars
    match item, skipSpace rest with
    | broken, _ => ([broken], [])
    | item, ']' :: rest => ([item], rest)
    | item, ',' :: rest =>
      let (others, rest) := items fuel rest
      (item :: others, rest)
    | item, _ => ([item, broken], [])

/-- The members of an object up to its end, from a key on. -/
def members : Nat → List Char → List (String × Draft) × Option Draft × List Char
  | 0, _ => ([], some broken, [])
  | fuel + 1, chars =>
    match skipSpace chars with
    | '\x22' :: rest =>
      match quotedText [] false rest with
      | .text key rest => membersBehind fuel (key, ·) rest
      | .strange rest => membersBehind fuel (fun content => ("", unkeyed content)) rest
      | .broken => ([], some broken, [])
    | rest => ([], some (value fuel rest).1, [])

/-- The members of an object up to its end, from behind a key on; `keyed` puts the
key to its value. -/
def membersBehind : Nat → (Draft → String × Draft) → List Char →
    List (String × Draft) × Option Draft × List Char
  | 0, _, _ => ([], some broken, [])
  | fuel + 1, keyed, chars =>
    match skipSpace chars with
    | ':' :: rest =>
      let (content, rest) := value fuel rest
      match content, skipSpace rest with
      | broken, _ => ([keyed broken], some broken, [])
      | content, '}' :: rest => ([keyed content], none, rest)
      | content, ',' :: rest =>
        let (others, stray, rest) := members fuel rest
        (keyed content :: others, stray, rest)
      | content, _ => ([keyed content], some broken, [])
    | _ => ([keyed broken], some broken, [])

end

/-- The draft of bytes that are said to be a JSON text, and whether nothing but white space
follows it. -/
def ofBytes (bytes : List UInt8) : Draft × Bool :=
  let (draft, rest) := value (2 * bytes.length + 2) (bytes.map fun byte => Char.ofNat byte.toNat)
  (draft, (skipSpace rest).isEmpty)

mutual

/-- The value that a draft without faults stands for. Of several members with one
key the last counts, and the keys are put in order. -/
def value? : Draft → Option Json
  | null => some .null
  | bool value => some (.bool value)
  | number value => some (.number value)
  | string value => some (.string value)
  | array items => (valueItems? items).map .array
  | object members none =>
    (valueMembers? members).map fun members => .object (KeyMap.ofList members).entries
  | _ => none

/-- The values of the items of an array. -/
def valueItems? : List Draft → Option (List Json)
  | [] => some []
  | item :: rest => do
    let item ← value? item
    let rest ← valueItems? rest
    return item :: rest

/-- The values of the members of an object. -/
def valueMembers? : List (String × Draft) → Option (List (String × Json))
  | [] => some []
  | (key, content) :: rest => do
    let content ← value? content
    let rest ← valueMembers? rest
    return (key, content) :: rest

end

end Draft

/-- The value that a JSON text stands for, with the members of objects in order. -/
def ofText? (text : String) : Option Json :=
  match Draft.ofBytes text.toUTF8.data.toList with
  | (draft, true) => draft.value?
  | (_, false) => none

end Onboarding.Json
