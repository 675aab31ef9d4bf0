/-! # Hexadecimal digits

The values of the digits, read in either case, and the digits of the values below
sixteen in both cases. Reading a written digit gives its value.
-/

namespace Onboarding.Text

/-- The value of a hexadecimal digit, of a letter in either case. -/
def hexValue? (c : Char) : Option Nat :=
  if '0' ≤ c ∧ c ≤ '9' then some (c.toNat - 48)
  else if 'a' ≤ c ∧ c ≤ 'f' then some (c.toNat - 87)
  else if 'A' ≤ c ∧ c ≤ 'F' then some (c.toNat - 55)
  else none

/-- The value of a number written in hexadecimal digits. -/
def hexNumber? (digits : List Char) : Option Nat :=
  digits.foldlM (fun value c => (hexValue? c).map (value * 16 + ·)) 0

/-- The lower-case digit of a number below sixteen. -/
def lowerHexDigit (number : Nat) : Char :=
  if number < 10 then Char.ofNat (48 + number) else Char.ofNat (87 + number)

/-- The capital digit of a number below sixteen. -/
def capitalHexDigit (number : Nat) : Char :=
  if number < 10 then Char.ofNat (48 + number) else Char.ofNat (55 + number)

/-- Digits that are written are read back. -/
theorem hexValue?_capitalHexDigit {number : Nat} (bound : number < 16) :
    hexValue? (capitalHexDigit number) = some number := by
  have all : ∀ value : Fin 16, hexValue? (capitalHexDigit value) = some value.val := by decide
  exact all ⟨number, bound⟩

end Onboarding.Text
