import Onboarding.Domain.Reading

/-! # Labels of ASCII characters

The tables of marks and of right-to-left characters begin behind the ASCII characters, and so do
joiners. So labels of characters that a label may have, none of which stands for another label, make
up a name (`Onboarding.Domain.areLabels_of_plain`).
-/

namespace Onboarding

/-! ## Where a table begins -/

namespace Text.Table

/-- Whether no row of a line begins with a number below a bound. -/
def startsBeyond (bound : Nat) (line : List Char) : Bool :=
  (splitAt ';' line).all fun row =>
    ((splitAt ' ' row).filterMap hexNumber?).head?.all (bound ≤ ·)

/-- Lines without a row that begins with a number below a bound. Each line is given by its
characters, which are easier to compute with than a text. -/
inductive AreBeyond (bound : Nat) : List String → Prop
  | nil : AreBeyond bound []
  | cons {chars : List Char} {lines : List String} (line : startsBeyond bound chars = true)
      (others : AreBeyond bound lines) : AreBeyond bound (String.ofList chars :: lines)

/-- Lines that are beyond a bound have rows that begin beyond it. -/
theorem AreBeyond.rows {bound : Nat} {lines : List String} (areBeyond : AreBeyond bound lines) :
    ∀ row ∈ rows lines, ∀ first ∈ row.head?, bound ≤ first := by
  induction areBeyond with
  | nil => exact fun row member => nomatch member
  | @cons chars lines line others ih =>
      intro row member first isFirst
      rw [Table.rows, List.flatMap_cons, List.mem_append, String.toList_ofList] at member
      rcases member with inLine | inOthers
      · obtain ⟨part, isPart, rfl⟩ := List.mem_map.mp inLine
        have beyond := List.all_eq_true.mp line part isPart
        rw [Option.mem_def.mp isFirst, Option.all_some] at beyond
        exact of_decide_eq_true beyond
      · exact ih row inOthers first isFirst

/-- A code below the bound is in no range of the table. -/
theorem AreBeyond.not_inRanges {bound : Nat} {lines : List String}
    (areBeyond : AreBeyond bound lines) {code : Nat} (below : code < bound) :
    inRanges (ranges lines) code = false := by
  refine List.any_eq_false.mpr fun range member => ?_
  obtain ⟨row, isRow, isRange⟩ := List.mem_filterMap.mp member
  have beyond : bound ≤ range.1 := by
    split at isRange
    · cases Option.some.inj isRange
      exact areBeyond.rows _ isRow _ rfl
    · cases Option.some.inj isRange
      exact areBeyond.rows _ isRow _ rfl
    · cases isRange
  simp only [Bool.and_eq_true, decide_eq_true_eq, not_and]
  omega

end Text.Table

namespace Domain

open Text.Table (AreBeyond)

variable {c : Char}

/-- No character in ASCII is a mark. -/
theorem not_isMark_of_ascii (ascii : c.toNat < 0x80) :
    Text.inRanges markRanges c.toNat = false := by
  refine AreBeyond.not_inRanges ?_ ascii
  repeat refine .cons (by decide +kernel) ?_
  exact .nil

/-- No character in ASCII is a letter or figure of a script from right to left. -/
theorem not_inRightToLeft_of_ascii (ascii : c.toNat < 0x80) :
    Text.inRanges rightToLeftRanges c.toNat = false ∧
      Text.inRanges arabicLetterRanges c.toNat = false ∧
      Text.inRanges arabicNumberRanges c.toNat = false := by
  refine ⟨AreBeyond.not_inRanges ?_ ascii, AreBeyond.not_inRanges ?_ ascii,
    AreBeyond.not_inRanges ?_ ascii⟩ <;>
  · repeat refine .cons (by decide +kernel) ?_
    exact .nil

/-- No character in ASCII makes a label run from right to left. -/
theorem not_isRightToLeft_of_ascii (ascii : c.toNat < 0x80) :
    (Direction.ofChar c).isRightToLeft = false := by
  have beyond := not_inRightToLeft_of_ascii ascii
  have ofRow : ∀ row ∈ Direction.table, Text.inRanges row.2 c.toNat = true →
      row.1.isRightToLeft = false := by
    simp only [Direction.table, List.forall_mem_cons]
    refine ⟨?_, ?_, ?_, fun _ => rfl, fun _ => rfl, fun _ => rfl, fun _ => rfl, fun _ => rfl,
      fun _ => rfl, fun _ => rfl, fun _ member => nomatch member⟩
    · exact fun inRow => absurd inRow (Bool.eq_false_iff.mp beyond.1)
    · exact fun inRow => absurd inRow (Bool.eq_false_iff.mp beyond.2.1)
    · exact fun inRow => absurd inRow (Bool.eq_false_iff.mp beyond.2.2)
  rw [Direction.ofChar]
  cases found : Direction.table.find? fun row => Text.inRanges row.2 c.toNat with
  | none => rfl
  | some row =>
      have inRow := List.find?_some found
      exact ofRow row (List.mem_of_find?_eq_some found) inRow

/-- Nothing in a label of ASCII characters joins others. -/
theorem joinersFit_of_ascii {label : List Char} (ascii : ∀ c ∈ label, c.toNat < 0x80)
    (before : List Char) : joinersFit before label = true := by
  induction label generalizing before with
  | nil => rfl
  | cons c rest ih =>
      obtain ⟨first, others⟩ := List.forall_mem_cons.mp ascii
      have notNonJoiner : c ≠ nonJoiner := fun same => absurd (same ▸ first) (by decide)
      have notJoiner : c ≠ joiner := fun same => absurd (same ▸ first) (by decide)
      rw [joinersFit, if_neg notNonJoiner, if_neg notJoiner, Bool.true_and]
      exact ih others _

/-- Labels in ASCII fit together. -/
theorem areFit_of_ascii {labels : List (List Char)}
    (ascii : ∀ label ∈ labels, ∀ c ∈ label, c.toNat < 0x80) : areFit labels = true := by
  have leftToRight : (labels.map fun label => label.map Direction.ofChar).any
      (·.any Direction.isRightToLeft) = false := by
    simp only [List.any_map, List.any_eq_false, Function.comp_apply, Bool.not_eq_true]
    exact fun label isLabel c member => not_isRightToLeft_of_ascii (ascii label isLabel c member)
  have unmarked : ∀ label ∈ labels, beginsWithMark label = false := by
    intro label isLabel
    cases label with
    | nil => rfl
    | cons first rest => exact not_isMark_of_ascii (ascii _ isLabel first List.mem_cons_self)
  rw [areFit, leftToRight, Bool.not_false, Bool.true_or, Bool.and_true, List.all_eq_true]
  intro label isLabel
  rw [unmarked label isLabel, joinersFit_of_ascii (ascii label isLabel)]
  rfl

/-- Labels that stand for themselves make up a name. -/
theorem areLabels_of_plain {labels : List (List Char)}
    (chars : ∀ label ∈ labels, ∀ c ∈ label, isLabelChar c = true)
    (plain : ∀ label ∈ labels, asciiMark.isPrefixOf label = false) : areLabels labels = true := by
  have shown : labels.mapM shownLabel? = some (labels.map id) :=
    mapM_eq_some_of_forall fun label isLabel => by
      rw [shownLabel?, plain label isLabel, if_neg Bool.false_ne_true]
      rfl
  have fit : areFit labels = true := areFit_of_ascii fun label isLabel c member =>
    toNat_lt_of_isNameChar (by rw [isNameChar, chars label isLabel c member, Bool.or_true])
  rw [areLabels, shown, List.map_id, Option.any_some, fit, Bool.and_true, List.all_eq_true]
  exact fun label isLabel => List.all_eq_true.mpr (chars label isLabel)

end Domain

end Onboarding
