import Onboarding.Text.Hexadecimal
import Onboarding.Text.Splitting

/-! # Addresses of version four

A host whose last part is a number is an address of four bytes. It may be written with
fewer than four numbers, the last one standing for all bytes that are left, and with
numbers in octal or hexadecimal digits. It is always shown as four decimal numbers.
-/

namespace Onboarding

/-- An address of four bytes. -/
structure Ipv4 where
  bits : UInt32
  deriving DecidableEq, Repr

namespace Ipv4

/-- The number that digits below a base write. No digits write zero. -/
def number? (base : Nat) (digits : List Char) : Option Nat :=
  digits.foldlM (fun value c =>
    ((Text.hexValue? c).filter (· < base)).map (value * base + ·)) 0

/-- The number in a part of a host: hexadecimal behind `0x`, octal behind another zero,
decimal otherwise. -/
def part? : List Char → Option Nat
  | [] => none
  | '0' :: 'x' :: digits => number? 16 digits
  | '0' :: 'X' :: digits => number? 16 digits
  | '0' :: digits => number? 8 digits
  | digits => number? 10 digits

/-- The parts of a host. A point at its end separates nothing. -/
def parts (host : List Char) : List (List Char) :=
  let parts := Text.splitAt '.' host
  if 1 < parts.length ∧ parts.getLast? = some [] then parts.dropLast else parts

/-- Whether a host is to be an address: its last part is a number, or at least made of
digits. -/
def isMeant (host : List Char) : Bool :=
  match (parts host).getLast? with
  | some last => (!last.isEmpty && last.all Char.isDigit) || (part? last).isSome
  | none => false

/-- Put numbers together: each of the first ones is a byte, and the last one stands for
the bytes that are left. -/
def ofNumbers? (numbers : List Nat) : Option Ipv4 :=
  match numbers.reverse with
  | [] => none
  | last :: before =>
    let room := Nat.pow 256 (4 - before.length)
    if before.length < 4 ∧ before.all (· < 256) ∧ last < room then
      let head := before.reverse.foldl (fun value byte => value * 256 + byte) 0
      some ⟨.ofNat (head * room + last)⟩
    else none

/-- The address that the parts of a host spell. -/
def read? (host : List Char) : Option Ipv4 :=
  ((parts host).mapM part?).bind ofNumbers?

/-- The four bytes of an address, the highest first. -/
def bytes (address : Ipv4) : List Nat :=
  let bits := address.bits.toNat
  [bits / 16777216, bits / 65536 % 256, bits / 256 % 256, bits % 256]

/-- An address as it is written: its bytes in decimal, with dots between them. -/
def write (address : Ipv4) : List Char :=
  Text.joinWith '.' (address.bytes.map (Nat.toDigits 10))

end Ipv4

end Onboarding
