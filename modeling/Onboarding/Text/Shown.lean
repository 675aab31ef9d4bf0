import Onboarding.Text.LetterCase
import Onboarding.Text.UnseenTable

/-! # Texts shown in messages

A message shows a text between double quotes, with short escapes for the zero
character, tab, line ends, the quote and the backslash, and with the number of
every other character that would leave no mark of its own.
-/

namespace Onboarding.Text

/-- A number in hexadecimal digits. -/
def hexDigits (number : Nat) : String :=
  String.ofList (Nat.toDigits 16 number)

/-- A character as it is shown between quotes. -/
def shownChar (c : Char) : String :=
  if c = '\x00' then "\\0"
  else if c = '\t' then "\\t"
  else if c = '\r' then "\\r"
  else if c = '\n' then "\\n"
  else if c = '\\' then "\\\\"
  else if c = '\x22' then "\\\""
  else if inRanges unseenRanges c.toNat then "\\u\x7b" ++ hexDigits c.toNat ++ "\x7d"
  else c.toString

/-- A text between quotes, as messages show it. -/
def shown (text : String) : String :=
  "\"" ++ String.join (text.toList.map shownChar) ++ "\""

end Onboarding.Text
