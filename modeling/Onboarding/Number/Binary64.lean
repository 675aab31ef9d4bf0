/-! # Decimal text of binary floating point numbers

A finite number of 64 bits is `mantissa · 2 ^ exponent`. Its shortest decimal is
the decimal of fewest digits that rounds back to it, and among those the nearest.
Decimals are read from a bounded significand and a power of ten, which is exact
whenever both are exact numbers themselves.
-/

namespace Onboarding.Number

/-- The decimal `digits · 10 ^ exponent`. -/
structure Decimal where
  digits : Nat
  exponent : Int
  deriving DecidableEq, Repr

/-- A finite number `mantissa · 2 ^ exponent`, apart from its sign. -/
structure Magnitude where
  mantissa : Nat
  exponent : Int
  deriving DecidableEq, Repr

/-- Whether the sign is set. -/
def isNegative (bits : UInt64) : Bool := bits >>> 63 == 1

/-- The least mantissa of a number with all its bits. -/
def leastNormal : Nat := 0x10000000000000

/-- The magnitude that the fraction and the exponent stand for. -/
def magnitude (bits : UInt64) : Magnitude :=
  let fraction := (bits &&& 0xFFFFFFFFFFFFF).toNat
  let scale := ((bits >>> 52) &&& 0x7FF).toNat
  if scale = 0 then ⟨fraction, -1074⟩ else ⟨fraction + leastNormal, scale - 1075⟩

/-- The reals that round to a number lie between `low / unit` and `high / unit`,
the number itself is `middle / unit`. The ends belong to it when its mantissa is
even. -/
structure Rounding where
  low : Nat
  middle : Nat
  high : Nat
  unit : Nat
  closed : Bool

/-- The reals that round to a magnitude. Below a power of two the neighbours are
half as far apart. -/
def Magnitude.rounding (value : Magnitude) : Rounding :=
  let up := Nat.pow 2 (value.exponent - 2).toNat
  let lowGap := if value.mantissa = leastNormal ∧ -1074 < value.exponent then 1 else 2
  { low := (4 * value.mantissa - lowGap) * up
    middle := 4 * value.mantissa * up
    high := (4 * value.mantissa + 2) * up
    unit := Nat.pow 2 (2 - value.exponent).toNat
    closed := value.mantissa % 2 = 0 }

/-- Whether `count` steps of a grid lie among the reals that round to a number. -/
def Rounding.admits (range : Rounding) (step shift count : Nat) : Bool :=
  let point := count * step
  let low := range.low * shift
  let high := range.high * shift
  if range.closed then low ≤ point && point ≤ high else low < point && point < high

/-- The same decimal without zeros at the end of its digits, as far as `steps`
allows. -/
def Decimal.stripped : Nat → Decimal → Decimal
  | 0, value => value
  | steps + 1, value =>
    if value.digits ≠ 0 ∧ value.digits % 10 = 0 then
      stripped steps ⟨value.digits / 10, value.exponent + 1⟩
    else value

/-- The decimal with the given exponent that is nearest to a number, if it rounds
to the number. -/
def Rounding.onGrid? (range : Rounding) (exponent : Int) : Option Decimal :=
  let shift := Nat.pow 10 (-exponent).toNat
  let step := range.unit * Nat.pow 10 exponent.toNat
  let below := range.middle * shift / step
  let rest := range.middle * shift % step
  let nearest :=
    if 2 * rest < step ∨ (2 * rest = step ∧ below % 2 = 0) then [below, below + 1]
    else [below + 1, below]
  (nearest.find? (range.admits step shift)).map (⟨·, exponent⟩)

/-- The number of decimal digits before the point of `middle / unit`; zero or
less when the first digit stands after the point. -/
def Rounding.pointPosition (range : Rounding) : Int :=
  if range.unit ≤ range.middle then (toString (range.middle / range.unit)).length
  else
    let zeros := (List.range 400).find? fun count =>
      range.unit ≤ range.middle * Nat.pow 10 (count + 1)
    Int.neg (Int.ofNat (zeros.getD 0))

/-- The shortest decimal that rounds to a number other than zero. -/
def Magnitude.shortest (value : Magnitude) : Decimal :=
  let range := value.rounding
  let point := range.pointPosition
  let found := (List.range 17).findSome? fun count =>
    range.onGrid? (point - Int.ofNat (count + 1))
  (found.getD ⟨range.middle / range.unit, 0⟩).stripped 17

/-- The decimal with a digit string in front of a point and one behind it. -/
def Decimal.positional (value : Decimal) : String :=
  let digits := toString value.digits
  let point := digits.length + value.exponent
  if 0 ≤ value.exponent then
    digits ++ String.ofList (List.replicate value.exponent.toNat '0') ++ ".0"
  else if 0 < point then
    String.ofList (digits.toList.take point.toNat) ++ "." ++
      String.ofList (digits.toList.drop point.toNat)
  else "0." ++ String.ofList (List.replicate (-point).toNat '0') ++ digits

/-- The decimal with one digit before the point and a power of ten. -/
def Decimal.scientific (value : Decimal) : String :=
  let digits := toString value.digits
  let power := digits.length + value.exponent - 1
  match digits.toList with
  | [] => "0"
  | first :: [] => first.toString ++ "e" ++ toString power
  | first :: rest => first.toString ++ "." ++ String.ofList rest ++ "e" ++ toString power

/-- The shortest text that reads back as the number. It has a power of ten when the
first digit would stand more than sixteen places before the point or more than five
behind it. -/
def shortText (bits : UInt64) : String :=
  let value := magnitude bits
  let text (decimal : Decimal) : String :=
    let point := (toString decimal.digits).length + decimal.exponent
    if -5 < point ∧ point ≤ 16 then decimal.positional else decimal.scientific
  (if isNegative bits then "-" else "") ++
    if value.mantissa = 0 then "0.0" else text value.shortest

/-- Scale a number by a power of ten, in steps no larger than the largest power
that is a number; nothing when the result is too large. -/
def scaleByTen : Nat → Float → Int → Option Float
  | 0, value, _ => some value
  | steps + 1, value, exponent =>
    if exponent.natAbs ≤ 308 then
      let power := Float.ofScientific 1 false exponent.natAbs
      if 0 ≤ exponent then
        let scaled := value * power
        if scaled.isInf then none else some scaled
      else some (value / power)
    else if value == 0.0 then some value
    else if 0 ≤ exponent then none
    else scaleByTen steps (value / Float.ofScientific 1 false 308) (exponent + 308)

/-- The number `significand · 10 ^ exponent`, with a sign; nothing when it is too
large. -/
def ofDecimal? (negative : Bool) (significand : UInt64) (exponent : Int) : Option UInt64 :=
  (scaleByTen 8 significand.toFloat exponent).map fun value =>
    (if negative then -value else value).toBits

end Onboarding.Number
