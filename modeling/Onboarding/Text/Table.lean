import Onboarding.Text.Hexadecimal
import Onboarding.Text.Splitting

/-! # Tables of characters

A table of character properties is kept as lines of text: a row is some numbers in
hexadecimal digits with spaces between them, and a semicolon stands between two rows
of a line.
-/

namespace Onboarding.Text.Table

/-- The rows of a table: numbers in hexadecimal, a row between semicolons. -/
def rows (lines : List String) : List (List Nat) :=
  lines.flatMap fun line =>
    (splitAt ';' line.toList).map fun row => (splitAt ' ' row).filterMap hexNumber?

/-- The ranges of a table whose rows are the first and the last number of a range, or
a number alone. -/
def ranges (lines : List String) : List (Nat × Nat) :=
  (rows lines).filterMap fun
    | [first, last] => some (first, last)
    | [only] => some (only, only)
    | _ => none

/-- The rest of the row that begins with a number. -/
def find? (rows : List (List Nat)) (number : Nat) : Option (List Nat) :=
  (rows.find? (·.head? == some number)).map List.tail

end Onboarding.Text.Table
