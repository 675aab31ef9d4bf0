import Onboarding.Text.Blank

/-! # Texts as scalars of a markup value

A workflow parameter is trimmed, and put between single quotes when it holds a
space or one of the punctuation characters that may mean something in markup.
Nothing inside the quotes is escaped.
-/

namespace Onboarding.Text

/-- The characters that make a scalar unsafe to write without quotes. -/
def specialCharacters : List Char :=
  " \x60!@#$%^&*()_+-=[]\x7b\x7d;':\"\\|,.<>/?~".toList

/-- Whether a text holds a character that asks for quotes. -/
def needsQuotes (text : String) : Bool :=
  text.toList.any (specialCharacters.contains ·)

/-- The trimmed text, between single quotes when it needs them. -/
def quoted (text : String) : String :=
  let value := trim text
  if needsQuotes value then "'" ++ value ++ "'" else value

end Onboarding.Text
