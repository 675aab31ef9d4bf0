import Onboarding.Json.Value
import Onboarding.Text.Hexadecimal

/-! # The text of a JSON value

The compact text holds no space between its parts. The pretty text puts every
member and item on a line of its own, two spaces deeper than what holds it; an
empty array or object stays on one line.
-/

namespace Onboarding.Json

/-- A character of a text, escaped where it must be. -/
def escapedChar (c : Char) : String :=
  if c = '\x22' then "\\\""
  else if c = '\\' then "\\\\"
  else if c = '\n' then "\\n"
  else if c = '\r' then "\\r"
  else if c = '\t' then "\\t"
  else if c = '\x08' then "\\b"
  else if c = '\x0c' then "\\f"
  else if c.toNat < 0x20 then
    "\\u00" ++ String.ofList [Text.lowerHexDigit (c.toNat / 16), Text.lowerHexDigit (c.toNat % 16)]
  else c.toString

/-- A text between quotes. -/
def quotedString (text : String) : String :=
  "\"" ++ String.join (text.toList.map escapedChar) ++ "\""

/-- The text of a number: digits of an integer, the shortest digits that read back
otherwise. -/
def numberText : JsonNumber → String
  | .integer value => toString value
  | .binary bits => Number.shortText bits

mutual

/-- A value on one line, without spaces. -/
def compact : Json → String
  | null => "null"
  | bool value => toString value
  | number value => numberText value
  | string value => quotedString value
  | array items => "[" ++ compactItems items ++ "]"
  | object members => "\x7b" ++ compactMembers members ++ "\x7d"

/-- The compact texts of the items of an array. -/
def compactItems : List Json → String
  | [] => ""
  | [item] => compact item
  | item :: rest => compact item ++ "," ++ compactItems rest

/-- The compact texts of the members of an object. -/
def compactMembers : List (String × Json) → String
  | [] => ""
  | [(key, value)] => quotedString key ++ ":" ++ compact value
  | (key, value) :: rest =>
    quotedString key ++ ":" ++ compact value ++ "," ++ compactMembers rest

end

/-- The start of a line at some depth. -/
def lineStart (depth : Nat) : String :=
  "\n" ++ String.ofList (List.replicate (2 * depth) ' ')

mutual

/-- The pretty text of a value whose own line has the given depth. -/
def prettyAt (depth : Nat) : Json → String
  | null => "null"
  | bool value => toString value
  | number value => numberText value
  | string value => quotedString value
  | array [] => "[]"
  | array items => "[" ++ prettyItems (depth + 1) items ++ lineStart depth ++ "]"
  | object [] => "\x7b\x7d"
  | object members => "\x7b" ++ prettyMembers (depth + 1) members ++ lineStart depth ++ "\x7d"

/-- The pretty texts of the items of an array. -/
def prettyItems (depth : Nat) : List Json → String
  | [] => ""
  | [item] => lineStart depth ++ prettyAt depth item
  | item :: rest => lineStart depth ++ prettyAt depth item ++ "," ++ prettyItems depth rest

/-- The pretty texts of the members of an object. -/
def prettyMembers (depth : Nat) : List (String × Json) → String
  | [] => ""
  | [(key, value)] => lineStart depth ++ quotedString key ++ ": " ++ prettyAt depth value
  | (key, value) :: rest =>
    lineStart depth ++ quotedString key ++ ": " ++ prettyAt depth value ++ "," ++
      prettyMembers depth rest

end

/-- A value over several lines, indented. -/
def pretty (json : Json) : String :=
  prettyAt 0 json

end Onboarding.Json
