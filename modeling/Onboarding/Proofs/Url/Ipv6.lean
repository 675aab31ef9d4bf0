import Onboarding.Proofs.Url.Numeral
import Onboarding.Url.Ipv6

/-! # Addresses of version six, read back

Two colons in a written address stand for the run of zeros that was left out, and nothing else in
it is taken for them. So an address is read from its text (`Onboarding.Ipv6.read?_write`).
-/

namespace Onboarding.Ipv6

/-! ## The run that is left out -/

/-- Pieces begin with as many zeros as are counted. -/
theorem replicate_zeros_append (pieces : List UInt16) :
    List.replicate (zeros pieces) 0 ++ pieces.drop (zeros pieces) = pieces := by
  induction pieces with
  | nil => rfl
  | cons piece rest ih =>
      rw [zeros, List.takeWhile_cons]
      split
      · next isZero =>
          rw [List.length_cons, ← zeros, List.replicate_succ, List.drop_succ_cons,
            List.cons_append, ih, beq_iff_eq.mp isZero]
      · rfl

/-- The longest run of zeros stands where it is said to. -/
theorem longestRun_append (pieces : List UInt16) :
    pieces.take (longestRun pieces).1 ++ (List.replicate (longestRun pieces).2 0 ++
      pieces.drop ((longestRun pieces).1 + (longestRun pieces).2)) = pieces := by
  induction pieces with
  | nil => rfl
  | cons piece rest ih =>
      rw [longestRun]
      split
      · rw [List.take_zero, Nat.zero_add, List.nil_append, replicate_zeros_append]
      · rw [List.take_succ_cons, Nat.add_right_comm, List.drop_succ_cons, List.cons_append, ih]

/-! ## Pieces and colons -/

/-- The text of a piece. -/
def writePiece (piece : UInt16) : List Char :=
  Nat.toDigits 16 piece.toNat

theorem writePieces_eq (pieces : List UInt16) :
    writePieces pieces = Text.joinWith ':' (pieces.map writePiece) :=
  rfl

/-- A piece has neither colon nor dot. -/
theorem not_mem_writePiece {mark : Char} (isMark : mark = ':' ∨ mark = '.') (piece : UInt16) :
    mark ∉ writePiece piece := by
  intro member
  obtain ⟨digit, _, rfl⟩ := Ipv4.mem_toDigits (by decide) member
  rcases isMark with isColon | isPoint
  · exact Nat.digitChar_ne ':' (by decide) isColon
  · exact Nat.digitChar_ne '.' (by decide) isPoint

/-- A piece is read back. -/
theorem piece?_writePiece (piece : UInt16) : piece? (writePiece piece) = some piece := by
  have bound : piece.toNat < 16 ^ 4 := piece.toNat_lt
  have atMost : (writePiece piece).length ≤ 4 :=
    (Nat.length_toDigits_le_iff (by decide) (by decide)).mpr bound
  rw [piece?, if_neg, writePiece, Ipv4.hexNumber?_toDigits, Option.map_some, UInt16.ofNat_toNat]
  rintro (isEmpty | tooMany)
  · exact Nat.toDigits_ne_nil (List.isEmpty_iff.mp isEmpty)
  · omega

theorem pieces?_map_writePiece (pieces : List UInt16) :
    pieces? (pieces.map writePiece) = some pieces := by
  induction pieces with
  | nil => rfl
  | cons piece rest ih =>
      cases rest with
      | nil =>
          have plain : (writePiece piece).contains '.' = false :=
            Bool.eq_false_iff.mpr fun isIn =>
              not_mem_writePiece (.inr rfl) piece (List.contains_iff_mem.mp isIn)
          rw [List.map_singleton, pieces?, plain, if_neg Bool.false_ne_true, piece?_writePiece,
            Option.map_some]
      | cons second others =>
          rw [List.map_cons, List.map_cons, pieces?, piece?_writePiece, ← List.map_cons, ih]
          · rfl
          · exact List.cons_ne_nil _ _

/-- Pieces are split at their colons. -/
theorem splitAt_writePieces {pieces : List UInt16} (present : pieces ≠ []) :
    Text.splitAt ':' (writePieces pieces) = pieces.map writePiece := by
  refine Text.splitAt_joinWith (fun isNil => present (List.map_eq_nil_iff.mp isNil)) ?_
  intro text isText
  obtain ⟨piece, _, rfl⟩ := List.mem_map.mp isText
  exact not_mem_writePiece (.inl rfl) piece

/-- The pieces on one side of two colons are read from their text. -/
theorem side?_writePieces (pieces : List UInt16) : side? (writePieces pieces) = some pieces := by
  cases pieces with
  | nil => rfl
  | cons piece rest =>
      have isSplit := splitAt_writePieces (List.cons_ne_nil piece rest)
      rw [side?, if_neg, isSplit, pieces?_map_writePiece]
      intro isEmpty
      rw [List.isEmpty_iff.mp isEmpty, List.map_cons] at isSplit
      exact Nat.toDigits_ne_nil (List.cons.inj isSplit).1.symm

/-! ## Two colons -/

/-- Two colons are not found in front of the first one. -/
theorem splitGap_append {text : List Char} (absent : ':' ∉ text) (rest : List Char) :
    splitGap (text ++ rest) = (text ++ (splitGap rest).1, (splitGap rest).2) := by
  induction text with
  | nil => rfl
  | cons c text ih =>
      rw [List.mem_cons, not_or] at absent
      rw [List.cons_append, splitGap, ih absent.2]
      · rfl
      · intro _ isColon
        exact absurd isColon.symm absent.1

/-- A colon between two texts is no gap. -/
theorem splitGap_cons {text : List Char} (begins : text.head? ≠ some ':') :
    splitGap (':' :: text) = (':' :: (splitGap text).1, (splitGap text).2) := by
  rw [splitGap]
  rintro rest - rfl
  exact begins rfl

/-- No gap is found among pieces. -/
theorem splitGap_writePieces (pieces : List UInt16) (rest : List Char) :
    splitGap (writePieces pieces ++ rest) =
      (writePieces pieces ++ (splitGap rest).1, (splitGap rest).2) := by
  induction pieces with
  | nil => rfl
  | cons piece pieces ih =>
      have absent := not_mem_writePiece (.inl rfl) piece
      cases pieces with
      | nil => exact splitGap_append absent rest
      | cons second others =>
          have isWritten : writePieces (piece :: second :: others) =
              writePiece piece ++ ':' :: writePieces (second :: others) := rfl
          have begins : (writePieces (second :: others) ++ rest).head? ≠ some ':' := by
            intro isColon
            have first : (writePiece second).head? = some ':' := by
              cases written : writePiece second with
              | nil => exact absurd written Nat.toDigits_ne_nil
              | cons c text =>
                  cases others <;>
                    simpa [writePieces_eq, Text.joinWith, written] using isColon
            exact not_mem_writePiece (.inl rfl) second (List.mem_of_head? first)
          rw [isWritten, List.append_assoc, splitGap_append absent, List.cons_append,
            splitGap_cons begins, ih]
          simp

/-! ## The whole address -/

/-- A written address is read as that address. -/
theorem read?_write (address : Ipv6) : read? address.write = some address := by
  have eight : address.pieces.length = size := address.length_pieces
  have present : address.pieces ≠ [] := List.ne_nil_of_length_eq_add_one eight
  have whole : ofPieces? address.pieces = some address := by rw [ofPieces?, dif_pos eight]
  have runs := longestRun_append address.pieces
  rw [write]
  generalize longestRun address.pieces = run at runs
  obtain ⟨start, count⟩ := run
  dsimp only at runs ⊢
  split
  · have noGap := splitGap_writePieces address.pieces []
    rw [List.append_nil] at noGap
    rw [read?, noGap]
    simp [splitGap, splitAt_writePieces present, pieces?_map_writePiece, whole]
  · next twoOrMore =>
      have noPoints : (writePieces (address.pieces.take start)).contains '.' = false := by
        refine Bool.eq_false_iff.mpr fun isIn => ?_
        rcases Text.mem_joinWith (List.contains_iff_mem.mp isIn) with
          isColon | ⟨text, isText, inText⟩
        · cases isColon
        · obtain ⟨piece, _, rfl⟩ := List.mem_map.mp isText
          exact not_mem_writePiece (.inr rfl) piece inText
      have lengths := congrArg List.length runs
      rw [List.length_append, List.length_append, List.length_replicate, eight] at lengths
      have leftOut : size - (address.pieces.take start).length -
          (address.pieces.drop (start + count)).length = count := by omega
      have fewer : (address.pieces.take start).length +
          (address.pieces.drop (start + count)).length < size := by omega
      rw [read?, splitGap_writePieces]
      simp only [splitGap, List.append_nil, noPoints, Bool.false_eq_true, if_false,
        side?_writePieces, Option.bind_eq_bind, Option.bind_some, if_pos fewer]
      rw [leftOut, List.append_assoc, runs, whole]

end Onboarding.Ipv6
