import Mathlib.Data.List.Forall2
import Onboarding.Text.LetterCase
import Onboarding.Text.Normal

/-! # Texts that differ in letter case

The lower case of a text is its own lower case (`Onboarding.Text.lower_lower`): no row of the tables
covers what another row of them makes. With the upper case it is different. A text and its upper
case are equal ignoring case exactly if every character is in lower case again what it was, a sigma
apart, and every sigma has the form that it gets by its place
(`Onboarding.Text.sameIgnoringCase_upper_iff`). Texts of ASCII characters are so
(`Onboarding.Text.regainsCase_of_ascii`), but a sharp s becomes two letters, a long s or a dotless i
becomes another letter, and a final sigma need not stand at the end of a word.
-/

namespace Onboarding.Text

/-! ## Rows of the case tables -/

theorem toNat_ofNat_of_isValid {code : Nat} (isValid : code.isValidChar) :
    (Char.ofNat code).toNat = code :=
  congrArg Char.toNat (dif_pos isValid)

theorem toNat_ofNat_or (code : Nat) :
    (Char.ofNat code).toNat = code ∨ Char.ofNat code = '\x00' := by
  by_cases isValid : code.isValidChar
  · exact .inl (toNat_ofNat_of_isValid isValid)
  · exact .inr (dif_neg isValid)

theorem mem_of_lookup {sequences : List (Nat × List Nat)} {code : Nat} {codes : List Nat}
    (listed : sequences.lookup code = some codes) : (code, codes) ∈ sequences := by
  obtain ⟨before, after, rfl, _⟩ := List.lookup_eq_some_iff.mp listed
  exact List.mem_append_right _ List.mem_cons_self

/-- A character is mapped by its own row, by the row that moves it, or to itself. -/
theorem mapCase_cases (sequences : List (Nat × List Nat)) (runs : List CaseRun) (c : Char) :
    (∃ codes, (c.toNat, codes) ∈ sequences ∧
      mapCase sequences runs c = codes.map Char.ofNat) ∨
    (∃ run ∈ runs, run.covers c.toNat = true ∧
      mapCase sequences runs c = [Char.ofNat (c.toNat + run.offset).toNat]) ∨
    (sequences.lookup c.toNat = none ∧ (∀ run ∈ runs, run.covers c.toNat = false) ∧
      mapCase sequences runs c = [c]) := by
  unfold mapCase
  cases listed : sequences.lookup c.toNat with
  | some codes => exact .inl ⟨codes, mem_of_lookup listed, rfl⟩
  | none =>
      cases covered : runs.find? (·.covers c.toNat) with
      | some run =>
          have covers : run.covers c.toNat = true := by simpa using List.find?_some covered
          exact .inr (.inl ⟨run, List.mem_of_find?_eq_some covered, covers, rfl⟩)
      | none =>
          refine .inr (.inr ⟨rfl, fun run member => ?_, rfl⟩)
          exact Bool.eq_false_iff.mpr (List.find?_eq_none.mp covered run member)

/-- Only the first row of a case table is about ASCII characters. -/
theorem mapCase_of_ascii {sequences : List (Nat × List Nat)} {first : CaseRun}
    {others : List CaseRun} (unlisted : ∀ row ∈ sequences, 0x80 ≤ row.1)
    (beyond : ∀ run ∈ others, 0x80 ≤ run.first) {c : Char} (ascii : c.toNat < 0x80) :
    mapCase sequences (first :: others) c = mapCase [] [first] c := by
  have absent : sequences.lookup c.toNat = none := by
    refine List.lookup_eq_none_iff.mpr fun row member => ?_
    have := unlisted row member
    simp only [bne_iff_ne, ne_eq]
    omega
  have uncovered : others.find? (·.covers c.toNat) = none := by
    refine List.find?_eq_none.mpr fun run member => ?_
    have := beyond run member
    simp only [CaseRun.covers, Bool.and_eq_true, decide_eq_true_eq, not_and]
    omega
  rw [mapCase, mapCase, absent, List.find?_cons, List.find?_cons, uncovered]
  rfl

/-- Lower case is a matter of the tables, in ASCII too. -/
theorem lowerChar_eq (c : Char) : lowerChar c = mapCase lowerSequences lowerRuns c := by
  by_cases ascii : c.toNat < 0x80
  · have rest : lowerRuns = ⟨0x41, 0x5A, 1, 32⟩ :: lowerRuns.tail := rfl
    rw [rest, mapCase_of_ascii (by decide) (by decide +kernel) ascii]
    exact char_cases_of_ascii
      (motive := fun c => lowerChar c = mapCase [] [⟨0x41, 0x5A, 1, 32⟩] c) (by decide) ascii
  · rw [lowerChar, if_neg ascii]

theorem upperChar_eq (c : Char) : upperChar c = mapCase upperSequences upperRuns c := by
  by_cases ascii : c.toNat < 0x80
  · have rest : upperRuns = ⟨0x61, 0x7A, 1, -32⟩ :: upperRuns.tail := rfl
    rw [rest, mapCase_of_ascii (by decide) (by decide +kernel) ascii]
    exact char_cases_of_ascii
      (motive := fun c => upperChar c = mapCase [] [⟨0x61, 0x7A, 1, -32⟩] c) (by decide) ascii
  · rw [upperChar, if_neg ascii]

namespace CaseRun

/-- What a row makes of its first character. -/
def firstImage (run : CaseRun) : Nat := (run.first + run.offset).toNat

/-- What a row makes of its last character. -/
def lastImage (run : CaseRun) : Nat := (run.last + run.offset).toNat

variable {run other : CaseRun} {code : Nat}

/-- The codes that a row covers and what it makes of them lie between those of its ends. -/
theorem bounds_of_covers (covers : run.covers code = true) :
    run.first ≤ code ∧ code ≤ run.last ∧ run.firstImage ≤ (code + run.offset).toNat ∧
      (code + run.offset).toNat ≤ run.lastImage := by
  simp only [CaseRun.covers, Bool.and_eq_true, decide_eq_true_eq] at covers
  unfold firstImage lastImage
  omega

end CaseRun

/-! ## The lower case of a lower case -/

/-- Whether another row covers nothing of what a row makes. Rows of step two may lie within each
other if they cover codes of different parity. -/
def CaseRun.avoids (run other : CaseRun) : Bool :=
  Nat.blt run.lastImage other.first || Nat.blt other.last run.firstImage ||
    (Nat.beq other.step 2 && (Nat.beq run.step 2 || Nat.beq run.first run.last) &&
      Nat.ble (-run.offset).toNat run.first &&
      Nat.beq ((run.firstImage + other.first) % 2) 1)

/-- A run that avoids another leads to no character of it. -/
theorem CaseRun.covers_image_of_avoids {run other : CaseRun} {code : Nat}
    (avoids : run.avoids other = true) (covers : run.covers code = true) :
    other.covers (code + run.offset).toNat = false := by
  obtain ⟨_, _, above, below⟩ := bounds_of_covers covers
  simp only [CaseRun.avoids, Bool.or_eq_true, Bool.and_eq_true, Nat.blt_eq, Nat.beq_eq,
    Nat.ble_eq] at avoids
  simp only [CaseRun.covers, Bool.and_eq_true, decide_eq_true_eq, beq_iff_eq] at covers
  simp only [CaseRun.covers, Bool.and_eq_false_iff, decide_eq_false_iff_not, beq_eq_false_iff_ne]
  rcases avoids with (before | behind) | ⟨⟨⟨double, single⟩, noWrap⟩, parity⟩
  · omega
  · omega
  · rw [double]
    unfold firstImage lastImage at *
    rcases single with same | same
    · rw [same] at covers
      omega
    · omega

/-- Whether no row of the lower case tables is about a character. -/
def IsLow (c : Char) : Prop :=
  lowerSequences.lookup c.toNat = none ∧ ∀ run ∈ lowerRuns, run.covers c.toNat = false

instance (c : Char) : Decidable (IsLow c) := inferInstanceAs (Decidable (_ ∧ _))

/-- A low character is its own lower case. -/
theorem lowerChar_of_isLow {c : Char} (isLow : IsLow c) : lowerChar c = [c] := by
  have uncovered : lowerRuns.find? (·.covers c.toNat) = none :=
    List.find?_eq_none.mpr fun run member => Bool.eq_false_iff.mp (isLow.2 run member)
  rw [lowerChar_eq, mapCase, isLow.1, uncovered]

theorem ne_capitalSigma_of_isLow {c : Char} (isLow : IsLow c) : c ≠ capitalSigma := by
  rintro rfl
  have covered : lowerRuns.any (·.covers capitalSigma.toNat) = true := by decide +kernel
  obtain ⟨run, member, covers⟩ := List.any_eq_true.mp covered
  rw [isLow.2 run member] at covers
  cases covers

/-- The runs of lower case lead to low characters. -/
theorem isLow_of_run {run : CaseRun} (member : run ∈ lowerRuns) {code : Nat}
    (covers : run.covers code = true) : IsLow (Char.ofNat (code + run.offset).toNat) := by
  have avoided : (lowerRuns.all fun run => lowerRuns.all run.avoids) = true := by decide +kernel
  have unlisted : (lowerRuns.all fun run => lowerSequences.all fun row =>
      Nat.blt run.lastImage row.1 || Nat.blt row.1 run.firstImage) = true := by decide +kernel
  rcases toNat_ofNat_or (code + run.offset).toNat with same | isZero
  · unfold IsLow
    rw [same]
    refine ⟨List.lookup_eq_none_iff.mpr fun row isRow => ?_, fun other isOther => ?_⟩
    · have outside := List.all_eq_true.mp (List.all_eq_true.mp unlisted run member) row isRow
      have bounds := CaseRun.bounds_of_covers covers
      simp only [Bool.or_eq_true, Nat.blt_eq] at outside
      simp only [bne_iff_ne, ne_eq]
      omega
    · have avoids := List.all_eq_true.mp (List.all_eq_true.mp avoided run member) other isOther
      exact CaseRun.covers_image_of_avoids avoids covers
  · rw [isZero]
    decide +kernel

theorem isLow_of_mem_lowerChar {c d : Char} (member : d ∈ lowerChar c) : IsLow d := by
  rw [lowerChar_eq] at member
  rcases mapCase_cases lowerSequences lowerRuns c with
    ⟨codes, listed, isMapped⟩ | ⟨run, isRun, covers, isMapped⟩ | ⟨unlisted, uncovered, isMapped⟩
  · have all : ∀ row ∈ lowerSequences, ∀ code ∈ row.2, IsLow (Char.ofNat code) := by
      decide +kernel
    rw [isMapped] at member
    obtain ⟨code, isCode, rfl⟩ := List.mem_map.mp member
    exact all _ listed code isCode
  · rw [isMapped, List.mem_singleton] at member
    exact member ▸ isLow_of_run isRun covers
  · rw [isMapped, List.mem_singleton] at member
    exact member ▸ ⟨unlisted, uncovered⟩

/-- The lower case of a text is made of low characters, its sigmas too. -/
theorem isLow_of_mem_lowerChars {before chars : List Char} {d : Char}
    (member : d ∈ lowerChars before chars) : IsLow d := by
  have sigmas : IsLow smallSigma ∧ IsLow finalSigma := by decide +kernel
  induction chars generalizing before with
  | nil => cases member
  | cons c rest ih =>
      rw [lowerChars] at member
      rcases List.mem_append.mp member with here | later
      · split at here
        · rw [List.mem_singleton] at here
          split at here
          · exact here ▸ sigmas.2
          · exact here ▸ sigmas.1
        · exact isLow_of_mem_lowerChar here
      · exact ih later

/-- A text of low characters is its own lower case. -/
theorem lowerChars_of_isLow {before chars : List Char} (low : ∀ c ∈ chars, IsLow c) :
    lowerChars before chars = chars := by
  induction chars generalizing before with
  | nil => rfl
  | cons c rest ih =>
      have isLow := low c List.mem_cons_self
      rw [lowerChars, if_neg (ne_capitalSigma_of_isLow isLow), lowerChar_of_isLow isLow,
        ih fun d member => low d (List.mem_cons_of_mem _ member)]
      rfl

/-- The lower case of a text is its own lower case. -/
theorem lower_lower (text : String) : lower (lower text) = lower text := by
  rw [lower, lower, String.toList_ofList,
    lowerChars_of_isLow fun c member => isLow_of_mem_lowerChars member]

/-! ## The context of a sigma -/

/-- Whether the first character with case influence is cased, if there is one. -/
def influence? (chars : List Char) : Option Bool :=
  (chars.find? fun c => !inRanges caseIgnorableRanges c.toNat).map fun c =>
    inRanges casedRanges c.toNat

/-- Whether a letter follows is told by the first character that has an influence. -/
theorem startsCased_eq (chars : List Char) : startsCased chars = (influence? chars).getD false := by
  induction chars with
  | nil => rfl
  | cons c rest ih =>
      unfold startsCased influence? at *
      cases isIgnorable : inRanges caseIgnorableRanges c.toNat with
      | true =>
          rw [List.dropWhile_cons_of_pos (by exact isIgnorable),
            List.find?_cons_of_neg (by simp [isIgnorable])]
          exact ih
      | false =>
          rw [List.dropWhile_cons_of_neg (by simp [isIgnorable]),
            List.find?_cons_of_pos (by simp [isIgnorable])]
          rfl

/-- The influence of a text is that of its first character that has one. -/
theorem influence?_cons (c : Char) (rest : List Char) :
    influence? (c :: rest) = (influence? [c]).or (influence? rest) := by
  unfold influence?
  rw [← List.singleton_append, List.find?_append, Option.map_or]

/-- Two characters are lowered alike when both are a capital sigma or neither is, and then they have
the same lower case, and when they have the same influence on a sigma beside them. -/
structure LoweredAlike (c d : Char) : Prop where
  sigma : c = capitalSigma ↔ d = capitalSigma
  lower : c ≠ capitalSigma → lowerChar c = lowerChar d
  influence : influence? [c] = influence? [d]

/-- Texts that are lowered alike have the same influence. -/
theorem influence?_of_alike {left right : List Char}
    (alike : List.Forall₂ LoweredAlike left right) :
    influence? left = influence? right := by
  induction alike with
  | nil => rfl
  | @cons c d left right first rest ih =>
      rw [influence?_cons c, influence?_cons d, first.influence, ih]

/-- Texts that are lowered alike have the same lower case, in alike surroundings. -/
theorem lowerChars_of_alike {before before' chars chars' : List Char}
    (alikeBefore : List.Forall₂ LoweredAlike before before')
    (alike : List.Forall₂ LoweredAlike chars chars') :
    lowerChars before chars = lowerChars before' chars' := by
  induction alike generalizing before before' with
  | nil => rfl
  | @cons c d chars chars' first rest ih =>
      rw [lowerChars, lowerChars, ih (.cons first alikeBefore), startsCased_eq, startsCased_eq,
        startsCased_eq, startsCased_eq, influence?_of_alike alikeBefore, influence?_of_alike rest]
      by_cases isSigma : c = capitalSigma
      · rw [if_pos isSigma, if_pos (first.sigma.mp isSigma)]
      · rw [if_neg isSigma, if_neg fun other => isSigma (first.sigma.mpr other),
          first.lower isSigma]

/-! ## The upper case -/

/-- A sigma of any form as a capital one. -/
def raiseSigma (c : Char) : Char :=
  if c = smallSigma ∨ c = finalSigma then capitalSigma else c

/-- A text comes back from its upper case, ignoring case: its characters do, a sigma apart, and its
sigmas have the forms that capital ones would get in their places. -/
structure RegainsCase (text : String) : Prop where
  chars : ∀ c ∈ text.toList,
    raiseSigma c = capitalSigma ∨ (upperChar c).flatMap lowerChar = lowerChar c
  sigmas : lowerChars [] (text.toList.map raiseSigma) = lowerChars [] text.toList

instance (text : String) : Decidable (RegainsCase text) :=
  decidable_of_iff
    ((text.toList.all fun c =>
      raiseSigma c = capitalSigma ∨ (upperChar c).flatMap lowerChar = lowerChar c) = true ∧
      lowerChars [] (text.toList.map raiseSigma) = lowerChars [] text.toList)
    ⟨fun ⟨chars, sigmas⟩ =>
      ⟨fun c member => of_decide_eq_true (List.all_eq_true.mp chars c member), sigmas⟩,
      fun ⟨chars, sigmas⟩ =>
        ⟨List.all_eq_true.mpr fun c member => decide_eq_true (chars c member), sigmas⟩⟩

/-- Three sigmas are raised to the capital one. -/
theorem raiseSigma_eq_capitalSigma_iff {c : Char} :
    raiseSigma c = capitalSigma ↔ c = smallSigma ∨ c = finalSigma ∨ c = capitalSigma := by
  unfold raiseSigma
  split
  · rename_i small
    exact iff_of_true rfl (small.imp_right .inl)
  · rename_i notSmall
    rw [← or_assoc, or_iff_right notSmall]

/-- The upper case of a sigma is the capital one. -/
theorem upperChar_of_raiseSigma {c : Char} (isSigma : raiseSigma c = capitalSigma) :
    upperChar c = [capitalSigma] := by
  rcases raiseSigma_eq_capitalSigma_iff.mp isSigma with rfl | rfl | rfl
  all_goals decide +kernel

/-- The lower case of a character is one character, save for the dotted capital. -/
theorem length_lowerChar (c : Char) (notDotted : c ≠ '\u0130') : (lowerChar c).length = 1 := by
  rw [lowerChar_eq]
  rcases mapCase_cases lowerSequences lowerRuns c with
    ⟨codes, listed, isMapped⟩ | ⟨run, _, _, isMapped⟩ | ⟨_, _, isMapped⟩
  · have only : ∀ row ∈ lowerSequences, row.1 = '\u0130'.toNat := by decide
    exact absurd (Char.toNat_inj.mp (only _ listed)) notDotted
  · rw [isMapped, List.length_singleton]
  · rw [isMapped, List.length_singleton]

/-- Whether no code of a range is in ranges in order. -/
def isClear (first last : Nat) : List (Nat × Nat) → Bool
  | [] => true
  | range :: ranges =>
    Nat.blt last range.1 || (Nat.blt range.2 first && isClear first last ranges)

/-- A stretch that is clear of ordered ranges has no code within them. -/
theorem not_inRanges_of_isClear {ranges : List (Nat × Nat)} {first last code : Nat}
    (ordered : ranges.Pairwise fun left right => left.1 < right.1)
    (clear : isClear first last ranges = true) (above : first ≤ code) (below : code ≤ last) :
    inRanges ranges code = false := by
  refine List.any_eq_false.mpr fun range member => ?_
  simp only [Bool.and_eq_true, decide_eq_true_eq, not_and]
  induction ranges with
  | nil => cases member
  | cons head ranges ih =>
      obtain ⟨later, ordered⟩ := List.pairwise_cons.mp ordered
      simp only [isClear, Bool.or_eq_true, Bool.and_eq_true, Nat.blt_eq] at clear
      rcases clear with beyond | ⟨before, clear⟩
      · rcases List.mem_cons.mp member with rfl | behind
        · omega
        · have := later range behind
          omega
      · rcases List.mem_cons.mp member with rfl | behind
        · omega
        · exact ih ordered clear behind

theorem caseIgnorableRanges_ordered :
    caseIgnorableRanges.Pairwise fun left right => left.1 < right.1 := by
  have : IsTrans (Nat × Nat) fun left right => left.1 < right.1 := ⟨fun _ _ _ => Nat.lt_trans⟩
  exact List.isChain_iff_pairwise.mp (by decide +kernel)

/-- Whether all codes of a range are cased and have case influence; of the codes of a range with a
step of two every other one. -/
def isCasedRange (first last step : Nat) : Bool :=
  ((casedRanges.any fun range => Nat.ble range.1 first && Nat.ble last range.2) ||
    (Nat.beq step 2 && (List.range ((last - first) / 2 + 1)).all fun place =>
      inRanges casedRanges (first + 2 * place))) &&
  isClear first last caseIgnorableRanges

/-- The characters of a cased stretch count as letters. -/
theorem influence?_of_isCasedRange {first last step code : Nat}
    (isCased : isCasedRange first last step = true) (above : first ≤ code) (below : code ≤ last)
    (inStep : (code - first) % step = 0) {c : Char} (isCode : c.toNat = code) :
    influence? [c] = some true := by
  simp only [isCasedRange, Bool.and_eq_true, Bool.or_eq_true, List.any_eq_true, List.all_eq_true,
    Nat.ble_eq, Nat.beq_eq, List.mem_range] at isCased
  obtain ⟨cased, clear⟩ := isCased
  have isCased : inRanges casedRanges c.toNat = true := by
    rcases cased with ⟨range, member, startsBefore, endsBehind⟩ | ⟨isDouble, each⟩
    · refine List.any_eq_true.mpr ⟨range, member, ?_⟩
      simp only [Bool.and_eq_true, decide_eq_true_eq]
      omega
    · have isPlace : c.toNat = first + 2 * ((code - first) / 2) := by
        rw [isDouble] at inStep
        omega
      exact isPlace ▸ each _ (by omega)
  have notIgnorable : inRanges caseIgnorableRanges c.toNat = false :=
    isCode ▸ not_inRanges_of_isClear caseIgnorableRanges_ordered clear above below
  simp [influence?, notIgnorable, isCased]

/-- Whether the characters of a row and what it makes of them are cased and have case influence. -/
def CaseRun.isCased (run : CaseRun) : Bool :=
  isCasedRange run.first run.last run.step &&
    isCasedRange run.firstImage run.lastImage run.step &&
    Nat.ble (-run.offset).toNat run.first &&
    (Nat.blt run.lastImage 0xD800 ||
      (Nat.blt 0xDFFF run.firstImage && Nat.blt run.lastImage 0x110000))

/-- A run over cased characters keeps their influence. -/
theorem CaseRun.influence?_of_isCased {run : CaseRun} (isCased : run.isCased = true) {c : Char}
    (covers : run.covers c.toNat = true) :
    influence? [Char.ofNat (c.toNat + run.offset).toNat] = influence? [c] := by
  obtain ⟨above, below, imageAbove, imageBelow⟩ := bounds_of_covers covers
  simp only [CaseRun.isCased, Bool.and_eq_true, Bool.or_eq_true, Nat.ble_eq, Nat.blt_eq] at isCased
  obtain ⟨⟨⟨cased, imageCased⟩, noWrap⟩, valid⟩ := isCased
  simp only [CaseRun.covers, Bool.and_eq_true, beq_iff_eq] at covers
  have isValid : (c.toNat + run.offset).toNat.isValidChar := by
    unfold Nat.isValidChar
    omega
  have imageInStep : ((c.toNat + run.offset).toNat - run.firstImage) % run.step = 0 := by
    have same : (c.toNat + run.offset).toNat - run.firstImage = c.toNat - run.first := by
      unfold firstImage
      omega
    rw [same, covers.2]
  rw [influence?_of_isCasedRange imageCased imageAbove imageBelow imageInStep
      (toNat_ofNat_of_isValid isValid),
    influence?_of_isCasedRange cased above below covers.2 rfl]

/-- In upper case a character stays what it is, or a row moves it, or it becomes several. -/
theorem upperChar_cases (c : Char) :
    upperChar c = [c] ∨ (∃ run ∈ upperRuns, run.covers c.toNat = true ∧
      upperChar c = [Char.ofNat (c.toNat + run.offset).toNat]) ∨ 2 ≤ (upperChar c).length := by
  rw [upperChar_eq]
  rcases mapCase_cases upperSequences upperRuns c with
    ⟨codes, listed, isMapped⟩ | ⟨run, isRun, covers, isMapped⟩ | ⟨_, _, isMapped⟩
  · have several : ∀ row ∈ upperSequences, 2 ≤ row.2.length := by decide
    rw [isMapped, List.length_map]
    exact .inr (.inr (several _ listed))
  · exact .inr (.inl ⟨run, isRun, covers, isMapped⟩)
  · exact .inl isMapped

theorem upperChar_ne_nil (c : Char) : upperChar c ≠ [] := by
  rcases upperChar_cases c with same | ⟨_, _, _, moved⟩ | several
  · simp [same]
  · simp [moved]
  · intro empty
    rw [empty] at several
    exact absurd several (by decide)

/-- Only sigmas are capital sigmas in upper case. -/
theorem capitalSigma_not_mem_upperChar {c : Char} (notSigma : raiseSigma c ≠ capitalSigma) :
    capitalSigma ∉ upperChar c := by
  intro member
  rw [upperChar_eq] at member
  rcases mapCase_cases upperSequences upperRuns c with
    ⟨codes, listed, isMapped⟩ | ⟨run, isRun, covers, isMapped⟩ | ⟨_, _, isMapped⟩
  · have unlisted : ∀ row ∈ upperSequences, ∀ code ∈ row.2, Char.ofNat code ≠ capitalSigma := by
      decide +kernel
    rw [isMapped] at member
    obtain ⟨code, isCode, isSigma⟩ := List.mem_map.mp member
    exact unlisted _ listed code isCode isSigma
  · have only : ∀ run ∈ upperRuns, run.covers (capitalSigma.toNat - run.offset).toNat = true →
        (capitalSigma.toNat - run.offset).toNat = smallSigma.toNat ∨
          (capitalSigma.toNat - run.offset).toNat = finalSigma.toNat := by
      decide +kernel
    rw [isMapped, List.mem_singleton] at member
    have image : (c.toNat + run.offset).toNat = capitalSigma.toNat := by
      rcases toNat_ofNat_or (c.toNat + run.offset).toNat with same | isZero
      · rw [← same, ← member]
      · exact absurd (member.trans isZero) (by decide)
    have positive : 0 < capitalSigma.toNat := by decide
    have isCode : (capitalSigma.toNat - run.offset).toNat = c.toNat := by omega
    have isSmall := only run isRun (isCode ▸ covers)
    rw [isCode, Char.toNat_inj, Char.toNat_inj] at isSmall
    exact notSigma (if_pos isSmall)
  · rw [isMapped, List.mem_singleton] at member
    exact notSigma (raiseSigma_eq_capitalSigma_iff.mpr (.inr (.inr member.symm)))

/-- Without a sigma, the lower case of a text does not depend on what follows. -/
theorem lowerChars_append {chars : List Char} (before rest : List Char)
    (noSigma : capitalSigma ∉ chars) :
    lowerChars before (chars ++ rest) =
      chars.flatMap lowerChar ++ lowerChars (chars.reverse ++ before) rest := by
  induction chars generalizing before with
  | nil => rfl
  | cons c chars ih =>
      rw [List.mem_cons, not_or] at noSigma
      rw [List.cons_append, lowerChars, if_neg (Ne.symm noSigma.1), ih _ noSigma.2,
        List.flatMap_cons, List.reverse_cons, List.append_assoc, List.append_assoc,
        List.singleton_append]

theorem length_le_flatMap_lowerChar (chars : List Char) :
    chars.length ≤ (chars.flatMap lowerChar).length := by
  induction chars with
  | nil => exact Nat.le_refl 0
  | cons c rest ih =>
      have nonempty : 0 < (lowerChar c).length := by
        by_cases isDotted : c = '\u0130'
        · subst isDotted
          decide +kernel
        · exact length_lowerChar c isDotted ▸ Nat.one_pos
      rw [List.flatMap_cons, List.length_append, List.length_cons]
      omega

/-- By way of upper case, lower case is no shorter than without. -/
theorem length_lowerChar_le (c : Char) :
    (lowerChar c).length ≤ ((upperChar c).flatMap lowerChar).length := by
  by_cases isDotted : c = '\u0130'
  · subst isDotted
    decide +kernel
  · rw [length_lowerChar c isDotted]
    exact Nat.le_trans (List.length_pos_of_ne_nil (upperChar_ne_nil c))
      (length_le_flatMap_lowerChar (upperChar c))

/-- What a character becomes in lower case, in the place where it stands. -/
def lowerAt (before : List Char) (c : Char) (rest : List Char) : List Char :=
  if c = capitalSigma then
    [if startsCased before && !startsCased rest then finalSigma else smallSigma]
  else lowerChar c

theorem lowerChars_cons (before : List Char) (c : Char) (rest : List Char) :
    lowerChars before (c :: rest) = lowerAt before c rest ++ lowerChars (c :: before) rest :=
  rfl

/-- The lower case of an upper case is no shorter than that of the character, and the same
wherever it stands unless it is a sigma. -/
theorem exists_lowerChars_upperChar (before : List Char) (c : Char) (rest : List Char) :
    ∃ lowered, lowerChars before (upperChar c ++ rest) =
        lowered ++ lowerChars ((upperChar c).reverse ++ before) rest ∧
      (∀ place after, (lowerAt place c after).length ≤ lowered.length) ∧
      (raiseSigma c ≠ capitalSigma → lowered = (upperChar c).flatMap lowerChar) := by
  by_cases isSigma : raiseSigma c = capitalSigma
  · rw [upperChar_of_raiseSigma isSigma]
    refine ⟨_, lowerChars_cons before capitalSigma rest, fun place after => ?_,
      fun notSigma => absurd isSigma notSigma⟩
    have single : (lowerAt place c after).length = 1 := by
      unfold lowerAt
      split
      · rfl
      · refine length_lowerChar c ?_
        rintro rfl
        exact absurd isSigma (by decide)
    rw [single, lowerAt, if_pos rfl]
    exact Nat.le_refl 1
  · refine ⟨_, lowerChars_append before rest (capitalSigma_not_mem_upperChar isSigma),
      fun place after => ?_, fun _ => rfl⟩
    have notCapital : c ≠ capitalSigma := fun isCapital =>
      isSigma (raiseSigma_eq_capitalSigma_iff.mpr (.inr (.inr isCapital)))
    rw [lowerAt, if_neg notCapital]
    exact length_lowerChar_le c

/-- A text does not get shorter by its upper case. -/
theorem length_lowerChars_le (before before' chars : List Char) :
    (lowerChars before chars).length ≤
      (lowerChars before' (chars.flatMap upperChar)).length := by
  induction chars generalizing before before' with
  | nil => exact Nat.le_refl 0
  | cons c rest ih =>
      obtain ⟨lowered, isLowered, length, _⟩ :=
        exists_lowerChars_upperChar before' c (rest.flatMap upperChar)
      rw [List.flatMap_cons, isLowered, lowerChars_cons, List.length_append, List.length_append]
      exact Nat.add_le_add (length _ _) (ih _ _)

/-- A text that is equal to its upper case ignoring case is so in each of its characters, as neither
of them could make up for what another one gains. -/
theorem regains_of_lowerChars_eq {before before' chars : List Char}
    (same : lowerChars before' (chars.flatMap upperChar) = lowerChars before chars) :
    ∀ c ∈ chars, raiseSigma c = capitalSigma ∨ (upperChar c).flatMap lowerChar = lowerChar c := by
  induction chars generalizing before before' with
  | nil => exact fun c member => absurd member List.not_mem_nil
  | cons c rest ih =>
      obtain ⟨lowered, isLowered, length, isUpper⟩ :=
        exists_lowerChars_upperChar before' c (rest.flatMap upperChar)
      rw [List.flatMap_cons, isLowered, lowerChars_cons] at same
      have lengths := congrArg List.length same
      rw [List.length_append, List.length_append] at lengths
      have first := length before rest
      have others := length_lowerChars_le (c :: before) ((upperChar c).reverse ++ before') rest
      obtain ⟨here, later⟩ := List.append_inj same (by omega)
      refine List.forall_mem_cons.mpr ⟨or_iff_not_imp_left.mpr fun notSigma => ?_, ih later⟩
      have notCapital : c ≠ capitalSigma := fun isCapital =>
        notSigma (raiseSigma_eq_capitalSigma_iff.mpr (.inr (.inr isCapital)))
      rw [← isUpper notSigma, here, lowerAt, if_neg notCapital]

/-- A character that comes back from its upper case becomes one character there, which is lowered
like it; a sigma is lowered like a capital one. -/
theorem exists_upperChar_alike {c : Char}
    (regains : raiseSigma c = capitalSigma ∨ (upperChar c).flatMap lowerChar = lowerChar c) :
    ∃ d, upperChar c = [d] ∧ LoweredAlike d (raiseSigma c) := by
  by_cases isSigma : raiseSigma c = capitalSigma
  · rw [isSigma]
    exact ⟨capitalSigma, upperChar_of_raiseSigma isSigma, Iff.rfl, fun _ => rfl, rfl⟩
  · have comesBack := regains.resolve_left isSigma
    have notSigma := capitalSigma_not_mem_upperChar isSigma
    have isRaised : raiseSigma c = c := by
      unfold raiseSigma at isSigma ⊢
      split at isSigma
      · exact absurd rfl isSigma
      · rename_i notSmall
        exact if_neg notSmall
    have alike {d : Char} (isUpper : upperChar c = [d])
        (influence : influence? [d] = influence? [c]) : LoweredAlike d (raiseSigma c) := by
      rw [isUpper, List.mem_singleton] at notSigma
      rw [isUpper, List.flatMap_singleton] at comesBack
      rw [isRaised] at isSigma ⊢
      exact ⟨iff_of_false (Ne.symm notSigma) isSigma, fun _ => comesBack, influence⟩
    rcases upperChar_cases c with same | ⟨run, isRun, covers, moved⟩ | several
    · exact ⟨c, same, alike same rfl⟩
    · have cased : ∀ run ∈ upperRuns,
          run.first = 0x345 ∧ run.last = 0x345 ∨ run.isCased = true := by
        decide +kernel
      rcases cased run isRun with ⟨isFirst, isLast⟩ | isCased
      · -- the mark that becomes a letter does not come back
        have bounds := CaseRun.bounds_of_covers covers
        have isMark : c = '\u0345' := Char.toNat_inj.mp (by change c.toNat = 0x345; omega)
        rw [isMark] at comesBack
        exact absurd comesBack (by decide +kernel)
      · exact ⟨_, moved, alike moved (CaseRun.influence?_of_isCased isCased covers)⟩
    · have notDotted : c ≠ '\u0130' := by
        rintro rfl
        exact absurd several (by decide +kernel)
      have length := Nat.le_trans several (length_le_flatMap_lowerChar (upperChar c))
      rw [comesBack, length_lowerChar c notDotted] at length
      exact absurd length (by decide)

/-- If every character regains its case, the upper case is lowered alike. -/
theorem forall₂_upper {chars : List Char}
    (regains : ∀ c ∈ chars,
      raiseSigma c = capitalSigma ∨ (upperChar c).flatMap lowerChar = lowerChar c) :
    List.Forall₂ LoweredAlike (chars.flatMap upperChar) (chars.map raiseSigma) := by
  induction chars with
  | nil => exact .nil
  | cons c rest ih =>
      obtain ⟨d, isUpper, alike⟩ := exists_upperChar_alike (regains c List.mem_cons_self)
      rw [List.flatMap_cons, isUpper, List.singleton_append, List.map_cons]
      exact .cons alike (ih fun other member => regains other (List.mem_cons_of_mem _ member))

/-- A text and its upper case are equal ignoring case exactly if the text comes back from its upper
case. -/
theorem sameIgnoringCase_upper_iff (text : String) :
    sameIgnoringCase text (upper text) = true ↔ RegainsCase text := by
  rw [sameIgnoringCase, beq_iff_eq, lower, lower, String.ofList_inj, upper, String.toList_ofList,
    eq_comm]
  constructor
  · intro same
    have chars := regains_of_lowerChars_eq same
    exact ⟨chars, (lowerChars_of_alike .nil (forall₂_upper chars)).symm.trans same⟩
  · rintro ⟨chars, sigmas⟩
    exact (lowerChars_of_alike .nil (forall₂_upper chars)).trans sigmas

/-- A text in ASCII regains its case. -/
theorem regainsCase_of_ascii {text : String} (ascii : ∀ c ∈ text.toList, c.toNat < 0x80) :
    RegainsCase text := by
  have isRaised : ∀ c ∈ text.toList, raiseSigma c = c := fun c member =>
    char_cases_of_ascii (motive := fun c => raiseSigma c = c) (by decide) (ascii c member)
  refine ⟨fun c member => .inr ?_, ?_⟩
  · exact char_cases_of_ascii
      (motive := fun c => (upperChar c).flatMap lowerChar = lowerChar c) (by decide +kernel)
      (ascii c member)
  · rw [List.map_congr_left isRaised, List.map_id']

end Onboarding.Text
