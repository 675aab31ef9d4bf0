import Onboarding.Text.Normal

/-! # Labels in ASCII characters

A label of a domain name that has other characters is sent in ASCII ones: first its
ASCII characters, then, behind a hyphen, a row of numbers that say in the order of
the characters' codes which of the others stands where. A number is written with a
variable count of digits in base thirty-six; a digit below its threshold is the last
one, and the thresholds follow the size of the numbers before.
-/

namespace Onboarding.Domain.Punycode

/-- There are as many digits as letters and figures. -/
def base : Nat := 36

/-- The least threshold of a digit. -/
def leastThreshold : Nat := 1

/-- The greatest threshold of a digit. -/
def greatestThreshold : Nat := 26

/-- The bias at the start of a label. -/
def firstBias : Nat := 72

/-- The first code that is written as a number. -/
def firstCode : Nat := 0x80

/-- The threshold of the digit at a position, counted in steps of the base. -/
def threshold (position bias : Nat) : Nat :=
  max leastThreshold (min greatestThreshold (position - bias))

/-- A threshold is never zero, so that a number ends. -/
theorem threshold_pos (position bias : Nat) : 0 < threshold position bias :=
  Nat.le_max_left _ _

/-- The number of digits, in steps of the base, that a large number is worth, and what
is left of it. -/
def scale (position number : Nat) : Nat × Nat :=
  if (base - leastThreshold) * greatestThreshold / 2 < number then
    scale (position + base) (number / (base - leastThreshold))
  else (position, number)
  termination_by number
  decreasing_by exact Nat.div_lt_self (by omega) (by decide)

/-- The bias for the next number after one that was the given step, when so many
characters are placed. -/
def adapt (step placed : Nat) (isFirst : Bool) : Nat :=
  let damped := if isFirst then step / 700 else step / 2
  let (position, left) := scale 0 (damped + damped / placed)
  position + (base - leastThreshold + 1) * left / (left + 38)

/-- The digit of a value: letters first, then figures. -/
def digit (value : Nat) : Char :=
  if value < 26 then Char.ofNat (0x61 + value) else Char.ofNat (0x30 + (value - 26))

/-- The value of a digit, of a letter in either case. -/
def digitValue? (c : Char) : Option Nat :=
  if 'a' ≤ c ∧ c ≤ 'z' then some (c.toNat - 0x61)
  else if 'A' ≤ c ∧ c ≤ 'Z' then some (c.toNat - 0x41)
  else if '0' ≤ c ∧ c ≤ '9' then some (c.toNat - 0x30 + 26)
  else none

/-! ## Writing -/

/-- The digits of a number from a position on. -/
def writeNumber (bias position number : Nat) : List Char :=
  let least := threshold position bias
  if number < least then [digit number]
  else
    digit (least + (number - least) % (base - least)) ::
      writeNumber bias (position + base) ((number - least) / (base - least))
  termination_by number
  decreasing_by
    have positive := threshold_pos position bias
    have := Nat.div_le_self (number - threshold position bias) (base - threshold position bias)
    omega

/-- How far a label is written: the digits, the step to the next place, the bias, and
how many characters are placed. -/
structure Progress where
  written : List Char
  step : Nat
  bias : Nat
  placed : Nat

/-- Pass over a character of the label while the characters with some code are placed. -/
def Progress.pass (code : Nat) (progress : Progress) (c : Char) : Progress :=
  if c.toNat < code then { progress with step := progress.step + 1 }
  else if c.toNat = code then
    { written := progress.written ++ writeNumber progress.bias base progress.step
      step := 0
      bias := adapt progress.step (progress.placed + 1) progress.written.isEmpty
      placed := progress.placed + 1 }
  else progress

/-- Place the characters of a label that have the given codes, each greater than the
one before. -/
def placeAll (label : List Char) (next : Nat) (progress : Progress) : List Nat → Progress
  | [] => progress
  | code :: codes =>
    let start := { progress with step := progress.step + (code - next) * (progress.placed + 1) }
    let passed := label.foldl (Progress.pass code) start
    placeAll label (code + 1) { passed with step := passed.step + 1 } codes

/-- Add a code to codes in order, unless it is among them. -/
def insertCode (code : Nat) : List Nat → List Nat
  | [] => [code]
  | next :: codes =>
    if code < next then code :: next :: codes
    else if code = next then next :: codes
    else next :: insertCode code codes

/-- The ASCII form of a label, without the mark in front that shows it to be one. -/
def encode (label : List Char) : List Char :=
  let plain := label.filter (·.toNat < firstCode)
  let codes := ((label.filter (firstCode ≤ ·.toNat)).map Char.toNat).foldr insertCode []
  let progress := placeAll label firstCode ⟨[], 0, firstBias, plain.length⟩ codes
  (if plain.isEmpty then [] else plain ++ ['-']) ++ progress.written

/-! ## Reading -/

/-- Read a number from a position on: its value times the weight of that position, and
what follows it. -/
def readNumber (bias : Nat) : (position weight : Nat) → List Char → Option (Nat × List Char)
  | _, _, [] => none
  | position, weight, c :: rest => do
    let value ← digitValue? c
    let least := threshold position bias
    if value < least then return (value * weight, rest)
    else
      let (more, rest) ← readNumber bias (position + base) (weight * (base - least)) rest
      return (value * weight + more, rest)

/-- A number that is read takes up a character at least. -/
theorem readNumber_length_lt {bias position weight : Nat} {chars : List Char}
    {result : Nat × List Char} (isRead : readNumber bias position weight chars = some result) :
    result.2.length < chars.length := by
  induction chars generalizing position weight result with
  | nil => simp [readNumber] at isRead
  | cons c rest ih =>
    simp only [readNumber, Option.bind_eq_bind, Option.bind_eq_some_iff] at isRead
    obtain ⟨value, _, isRead⟩ := isRead
    split at isRead
    · obtain rfl := Option.some.inj isRead
      exact Nat.lt_succ_self _
    · obtain ⟨more, isMore, isRead⟩ := Option.bind_eq_some_iff.mp isRead
      obtain rfl := Option.some.inj isRead
      have shorter := ih isMore
      exact Nat.lt_succ_of_lt shorter

/-- Place the characters that a row of numbers tells of. -/
def readAll (bias code place : Nat) (placed : List Char) (chars : List Char) :
    Option (List Char) :=
  if chars.isEmpty then some placed
  else
    match isRead : readNumber bias base 1 chars with
    | none => none
    | some (step, rest) =>
      let count := placed.length + 1
      let code' := code + (place + step) / count
      let place' := (place + step) % count
      if code'.isValidChar then
        readAll (adapt step count (place == 0)) code' (place' + 1)
          (placed.insertIdx place' (Char.ofNat code')) rest
      else none
  termination_by chars.length
  decreasing_by exact readNumber_length_lt isRead

/-- The label that an ASCII form stands for. -/
def decode? (chars : List Char) : Option (List Char) :=
  let reversed := chars.reverse
  let numbers := (reversed.takeWhile (· ≠ '-')).reverse
  let plain := ((reversed.dropWhile (· ≠ '-')).drop 1).reverse
  if Text.isAscii plain then readAll firstBias firstCode 0 plain numbers else none

end Onboarding.Domain.Punycode
