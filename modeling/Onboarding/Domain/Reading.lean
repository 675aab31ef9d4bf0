import Onboarding.Domain.Label
import Onboarding.Domain.MappingTable
import Onboarding.Domain.Punycode

/-! # Reading a domain name

The characters of a domain name are mapped to the ones it is compared by, the name is
put into its normal form and split into labels, and every label that is not in ASCII
characters is put into its ASCII form. The labels of that form are then checked: those
that stand for others must stand for ones in normal form that need no mapping, and all
must be fit to be shown. A name that was read is read as itself (`read?_eq_self`).
-/

namespace Onboarding.Domain

/-- What a character is mapped to, unless no name may have it. -/
def mapChar? (c : Char) : Option (List Char) :=
  if c.toNat < 0x80 then some (Text.lowerChar c)
  else if Text.inRanges disallowedRanges c.toNat then none
  else if Text.inRanges ignoredRanges c.toNat then some []
  else
    match Text.Table.find? spelledRows c.toNat with
    | some codes => some (codes.map Char.ofNat)
    | none =>
      let move (row : List Nat) : Option Nat :=
        let within (first last step : Nat) : Bool :=
          first ≤ c.toNat && c.toNat ≤ last && (c.toNat - first) % step == 0
        match row with
        | [only, target] => if only = c.toNat then some target else none
        | [first, last, target] =>
          if within first last 1 then some (target + (c.toNat - first)) else none
        | [first, last, target, step] =>
          if within first last step then some (target + (c.toNat - first)) else none
        | _ => none
      match movedRows.findSome? move with
      | some code => some [Char.ofNat code]
      | none => some (Text.lowerChar c)

/-- What a label in ASCII form begins with when it stands for another. -/
def asciiMark : List Char := ['x', 'n', '-', '-']

/-- The ASCII form of a label. A label that has other characters does not already look
like one. -/
def asciiLabel? (label : List Char) : Option (List Char) :=
  if Text.isAscii label then some label
  else if asciiMark.isPrefixOf label then none
  else some (asciiMark ++ Punycode.encode label)

/-- The label that an ASCII form stands for: one in normal form, with other characters
than ASCII ones, that is mapped to itself. -/
def shownLabel? (label : List Char) : Option (List Char) :=
  if asciiMark.isPrefixOf label then
    (Punycode.decode? (label.drop asciiMark.length)).filter fun shown =>
      !Text.isAscii shown && Text.normal shown == shown &&
        shown.all fun c => mapChar? c == some [c]
  else some label

/-- Marks that end a host, are kept for addresses, or separate labels. -/
def isMark (c : Char) : Bool :=
  ['#', '%', '.', '/', ':', '<', '>', '?', '@', '[', '\\', ']', '^', '|'].contains c

/-- Characters of ASCII labels: all but capital letters, controls, the space and
marks. -/
def isLabelChar (c : Char) : Bool :=
  0x20 < c.toNat && c.toNat < 0x7F && !c.isUpper && !isMark c

/-- Whether labels in ASCII form make up a name. -/
def areLabels (labels : List (List Char)) : Bool :=
  labels.all (·.all isLabelChar) && (labels.mapM shownLabel?).any areFit

/-- A domain is mapped, normalized and split at its dots; each label must come to one of
ASCII characters, and the labels must fit together. -/
def read? (chars : List Char) : Option (List Char) := do
  let mapped ← chars.mapM mapChar?
  let labels ← (Text.splitAt '.' (Text.normal mapped.flatten)).mapM asciiLabel?
  if areLabels labels then some (Text.joinWith '.' labels) else none

/-! ## A name that was read -/

/-- A character of a name that was read: it needs no mapping. -/
def isNameChar (c : Char) : Bool :=
  c == '.' || isLabelChar c

theorem toNat_lt_of_isNameChar {c : Char} (isName : isNameChar c = true) : c.toNat < 0x80 := by
  simp only [isNameChar, isLabelChar, Bool.or_eq_true, beq_iff_eq, Bool.and_eq_true,
    decide_eq_true_eq] at isName
  rcases isName with rfl | ⟨⟨⟨_, below⟩, _⟩, _⟩
  · decide
  · omega

/-- A character of a name in ASCII is mapped to itself. -/
theorem mapChar?_of_isNameChar {c : Char} (isName : isNameChar c = true) :
    mapChar? c = some [c] := by
  have ascii := toNat_lt_of_isNameChar isName
  have notUpper : c.isUpper = false := by
    simp only [isNameChar, isLabelChar, Bool.or_eq_true, beq_iff_eq, Bool.and_eq_true,
      Bool.not_eq_true'] at isName
    rcases isName with rfl | ⟨⟨_, lower⟩, _⟩
    · rfl
    · exact lower
  rw [mapChar?, if_pos ascii, Text.lowerChar, if_pos ascii, if_neg]
  intro isCapital
  have capital : c.isUpper = true := by
    simp only [Bool.and_eq_true, decide_eq_true_eq] at isCapital
    exact decide_eq_true
      ⟨UInt32.le_iff_toNat_le.mpr isCapital.1, UInt32.le_iff_toNat_le.mpr isCapital.2⟩
  rw [notUpper] at capital
  cases capital

theorem mapM_eq_some_of_forall {α β : Type} {f : α → Option β} {g : α → β} {items : List α}
    (maps : ∀ item ∈ items, f item = some (g item)) : items.mapM f = some (items.map g) := by
  induction items with
  | nil => rfl
  | cons item items ih =>
    rw [List.mapM_cons, maps item List.mem_cons_self,
      ih fun other member => maps other (List.mem_cons_of_mem _ member)]
    rfl

/-- Labels that make up a name are read from it. -/
theorem read?_joinWith {labels : List (List Char)} (nonempty : labels ≠ [])
    (accepted : areLabels labels = true) :
    read? (Text.joinWith '.' labels) = some (Text.joinWith '.' labels) := by
  have labelChars : ∀ label ∈ labels, ∀ c ∈ label, isLabelChar c = true := by
    simp only [areLabels, Bool.and_eq_true, List.all_eq_true] at accepted
    exact accepted.1
  have nameChars : ∀ c ∈ Text.joinWith '.' labels, isNameChar c = true := by
    intro c member
    rcases Text.mem_joinWith member with rfl | ⟨label, isLabel, inLabel⟩
    · rfl
    · simp [isNameChar, labelChars label isLabel c inLabel]
  have mapped : (Text.joinWith '.' labels).mapM mapChar? =
      some ((Text.joinWith '.' labels).map ([·])) :=
    mapM_eq_some_of_forall fun c member => mapChar?_of_isNameChar (nameChars c member)
  have ascii : Text.isAscii (Text.joinWith '.' labels) = true := by
    simp only [Text.isAscii, List.all_eq_true, decide_eq_true_eq]
    exact fun c member => toNat_lt_of_isNameChar (nameChars c member)
  have noDots : ∀ label ∈ labels, '.' ∉ label := fun label isLabel inLabel =>
    absurd (labelChars label isLabel '.' inLabel) (by decide)
  have forms : labels.mapM asciiLabel? = some (labels.map id) := by
    refine mapM_eq_some_of_forall fun label isLabel => ?_
    have labelAscii : Text.isAscii label = true := by
      simp only [Text.isAscii, List.all_eq_true, decide_eq_true_eq]
      exact fun c inLabel => toNat_lt_of_isNameChar (by
        simp [isNameChar, labelChars label isLabel c inLabel])
    rw [asciiLabel?, if_pos labelAscii]
    rfl
  have flat : ((Text.joinWith '.' labels).map ([·])).flatten = Text.joinWith '.' labels := by
    rw [← List.flatMap_def, List.flatMap_singleton']
  rw [read?, mapped, Option.bind_eq_bind, Option.bind_some, flat, Text.normal_of_isAscii ascii,
    Text.splitAt_joinWith nonempty noDots, forms, List.map_id, Option.bind_some,
    if_pos accepted]

/-- A name that was read is made of labels. -/
theorem exists_labels_of_read? {chars name : List Char} (isRead : read? chars = some name) :
    ∃ labels, labels ≠ [] ∧ areLabels labels = true ∧ name = Text.joinWith '.' labels := by
  simp only [read?, Option.bind_eq_bind, Option.bind_eq_some_iff] at isRead
  obtain ⟨mapped, _, labels, forms, isRead⟩ := isRead
  split at isRead
  · next accepted =>
    refine ⟨labels, ?_, accepted, (Option.some.inj isRead).symm⟩
    rintro rfl
    cases parts : Text.splitAt '.' (Text.normal mapped.flatten) with
    | nil => exact Text.splitAt_ne_nil _ _ parts
    | cons first others =>
      rw [parts] at forms
      simp [List.mapM_cons, Option.bind_eq_some_iff] at forms
  · cases isRead

/-- A name that was read is read as itself. -/
theorem read?_eq_self {chars name : List Char} (isRead : read? chars = some name) :
    read? name = some name := by
  obtain ⟨labels, nonempty, accepted, rfl⟩ := exists_labels_of_read? isRead
  exact read?_joinWith nonempty accepted

end Onboarding.Domain
