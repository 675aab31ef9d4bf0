import Onboarding.Url.Ipv4

/-! # Addresses of version six

An address of eight pieces is written with colons between its pieces in hexadecimal
digits. Two colons stand once for one or more pieces that are zero, and the last two
pieces may be written as an address of version four. It is shown with two colons in
the place of its longest run of zeros, if that has two pieces or more, the first such
run among equal ones.
-/

namespace Onboarding

/-- An address of eight pieces. -/
structure Ipv6 where
  pieces : List UInt16
  length_pieces : pieces.length = 8
  deriving DecidableEq, Repr

namespace Ipv6

/-- An address has eight pieces. -/
def size : Nat := 8

/-- A piece: one to four hexadecimal digits. -/
def piece? (digits : List Char) : Option UInt16 :=
  if digits.isEmpty ∨ 4 < digits.length then none
  else (Text.hexNumber? digits).map UInt16.ofNat

/-- A byte of an embedded address: a decimal number without needless zeros. -/
def byte? (digits : List Char) : Option Nat :=
  if digits.isEmpty ∨ (1 < digits.length ∧ digits.head? = some '0') then none
  else (Ipv4.number? 10 digits).filter (· < 256)

/-- Two pieces that are written as an address of version four. -/
def embedded? (text : List Char) : Option (List UInt16) := do
  match ← (Text.splitAt '.' text).mapM byte? with
  | [first, second, third, fourth] =>
    return [.ofNat (first * 256 + second), .ofNat (third * 256 + fourth)]
  | _ => none

/-- Pieces between colons. The last may be an embedded address. -/
def pieces? : List (List Char) → Option (List UInt16)
  | [] => some []
  | [last] => if last.contains '.' then embedded? last else (piece? last).map ([·])
  | text :: texts => do
    let piece ← piece? text
    let pieces ← pieces? texts
    return piece :: pieces

/-- Split a text at its first two colons in a row. -/
def splitGap : List Char → List Char × Option (List Char)
  | ':' :: ':' :: rest => ([], some rest)
  | c :: rest => (c :: (splitGap rest).1, (splitGap rest).2)
  | [] => ([], none)

/-- The pieces on one side of two colons. -/
def side? (text : List Char) : Option (List UInt16) :=
  if text.isEmpty then some [] else pieces? (Text.splitAt ':' text)

/-- An address of some pieces, if they are as many as needed. -/
def ofPieces? (pieces : List UInt16) : Option Ipv6 :=
  if length_pieces : pieces.length = size then some ⟨pieces, length_pieces⟩ else none

/-- Read an address. An embedded address stands only at the end. -/
def read? (text : List Char) : Option Ipv6 :=
  match splitGap text with
  | (whole, none) => (pieces? (Text.splitAt ':' whole)).bind ofPieces?
  | (before, some after) => do
    if before.contains '.' then none
    else
      let before ← side? before
      let after ← side? after
      if before.length + after.length < size then
        ofPieces? (before ++ List.replicate (size - before.length - after.length) 0 ++ after)
      else none

/-- How many zeros pieces begin with. -/
def zeros (pieces : List UInt16) : Nat :=
  (pieces.takeWhile (· == 0)).length

/-- The first of the longest runs of zeros: how many pieces stand before it, and how
many it has. -/
def longestRun : List UInt16 → Nat × Nat
  | [] => (0, 0)
  | piece :: rest =>
    let later := longestRun rest
    if later.2 ≤ zeros (piece :: rest) then (0, zeros (piece :: rest))
    else (later.1 + 1, later.2)

/-- The text of pieces with colons between them. -/
def writePieces (pieces : List UInt16) : List Char :=
  Text.joinWith ':' (pieces.map (Nat.toDigits 16 ·.toNat))

/-- An address as it is written: the longest run of zeros is left out, if it is longer than
one. -/
def write (address : Ipv6) : List Char :=
  let (start, count) := longestRun address.pieces
  if count < 2 then writePieces address.pieces
  else
    writePieces (address.pieces.take start) ++ ':' :: ':' ::
      writePieces (address.pieces.drop (start + count))

end Ipv6

end Onboarding
