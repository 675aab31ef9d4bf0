import Onboarding.Proofs.Answers.WellFormed

/-! # Where entries are found

An entry of a list is looked up by its key, and what is found is the position of the first entry
whose key is the same. Keys that are pairwise distinct make every entry the only one for its key
(`Onboarding.position?_eq_some_iff`). So the positions that are found after an edit can be told
from those that were found before it.

The tests, the base images and the substitutions of some answers are such lists, each with its own
sameness of keys and its own edits (`Onboarding.KeyedList`).
-/

namespace Onboarding

/-- The position of the first entry whose key is the same as the one looked for. -/
def position? {α κ : Type} (key : α → κ) (same : κ → κ → Bool) (entries : List α) (wanted : κ) :
    Option Nat :=
  entries.findIdx? fun entry => same (key entry) wanted

/-- A key is found if some entry has it. -/
theorem isSome_position?_iff {α κ : Type} {key : α → κ} {same : κ → κ → Bool} {entries : List α}
    {wanted : κ} :
    (position? key same entries wanted).isSome = true ↔
      ∃ entry ∈ entries, same (key entry) wanted = true := by
  unfold position?
  rw [List.findIdx?_isSome, List.any_eq_true]

section Positions

variable {α κ : Type} {key : α → κ} {same : κ → κ → Bool} {entries : List α} {index : Nat}
  {entry : α} {wanted : κ}

variable (equivalence : Equivalence fun left right => same left right = true)

include equivalence

/-- A key is found where an entry has it, if no two entries have the same key. -/
theorem position?_eq_some_iff
    (distinct : Distinct (fun left right => same (key left) (key right)) entries) :
    position? key same entries wanted = some index ↔
      ∃ entry, entries[index]? = some entry ∧ same (key entry) wanted = true := by
  unfold position?
  rw [List.findIdx?_eq_some_iff_getElem]
  constructor
  · rintro ⟨inside, isWanted, _⟩
    exact ⟨entries[index], List.getElem?_eq_getElem inside, isWanted⟩
  · rintro ⟨entry, isEntry, isWanted⟩
    obtain ⟨inside, rfl⟩ := List.getElem?_eq_some_iff.mp isEntry
    refine ⟨inside, isWanted, fun earlier isBefore alsoWanted => ?_⟩
    have differ := List.pairwise_iff_getElem.mp distinct earlier index (by omega) inside isBefore
    have isSame := equivalence.trans alsoWanted (equivalence.symm isWanted)
    exact Bool.eq_false_iff.mp differ isSame

/-- An entry behind all others is found under its new key, and nothing else changes. -/
theorem position?_append
    (fresh : ∀ existing ∈ entries, same (key existing) (key entry) = false) :
    position? key same (entries ++ [entry]) wanted =
      if same (key entry) wanted = true then some entries.length
      else position? key same entries wanted := by
  unfold position?
  rw [List.findIdx?_append]
  by_cases isWanted : same (key entry) wanted = true
  · have absent : entries.findIdx? (fun existing => same (key existing) wanted) = none := by
      refine List.findIdx?_eq_none_iff.mpr fun existing member => Bool.eq_false_iff.mpr ?_
      intro alsoWanted
      have isSame := equivalence.trans alsoWanted (equivalence.symm isWanted)
      exact Bool.eq_false_iff.mp (fresh existing member) isSame
    simp [absent, isWanted]
  · simp [isWanted]

variable (distinct : Distinct (fun left right => same (key left) (key right)) entries)

include distinct

/-- Entries with the same key are one entry. -/
theorem index_eq_of_same {other : α} {place : Nat} (isEntry : entries[index]? = some entry)
    (isOther : entries[place]? = some other) (isSame : same (key entry) (key other) = true) :
    index = place := by
  have found := (position?_eq_some_iff equivalence distinct).mpr ⟨entry, isEntry, isSame⟩
  have alsoFound := (position?_eq_some_iff equivalence distinct).mpr
    ⟨other, isOther, equivalence.refl (key other)⟩
  exact Option.some.inj (found.symm.trans alsoFound)

/-- An entry that is removed is no longer found, and those behind it are found one place
earlier. -/
theorem position?_eraseIdx (isEntry : entries[index]? = some entry) :
    position? key same (entries.eraseIdx index) wanted =
      if same (key entry) wanted = true then none
      else (position? key same entries wanted).map fun position =>
        if position < index then position else position - 1 := by
  have found (position : Nat) : position? key same (entries.eraseIdx index) wanted = some position ↔
      ∃ other, (entries.eraseIdx index)[position]? = some other ∧ same (key other) wanted = true :=
    position?_eq_some_iff equivalence (distinct.eraseIdx index)
  refine Option.ext fun position => ?_
  rw [found, List.getElem?_eraseIdx]
  by_cases isWanted : same (key entry) wanted = true
  · rw [if_pos isWanted]
    refine iff_of_false ?_ (by simp)
    rintro ⟨other, isOther, alsoWanted⟩
    have isSame := equivalence.trans isWanted (equivalence.symm alsoWanted)
    split at isOther
    · have samePlace := index_eq_of_same equivalence distinct isEntry isOther isSame
      omega
    · have samePlace := index_eq_of_same equivalence distinct isEntry isOther isSame
      omega
  · rw [if_neg isWanted, Option.map_eq_some_iff]
    constructor
    · rintro ⟨other, isOther, isFound⟩
      split at isOther
      · rename_i isBefore
        exact ⟨position, (position?_eq_some_iff equivalence distinct).mpr
          ⟨other, isOther, isFound⟩, if_pos isBefore⟩
      · refine ⟨position + 1, (position?_eq_some_iff equivalence distinct).mpr
          ⟨other, isOther, isFound⟩, ?_⟩
        rw [if_neg (by omega), Nat.add_sub_cancel]
    · rintro ⟨former, isFormer, rfl⟩
      obtain ⟨other, isOther, isFound⟩ := (position?_eq_some_iff equivalence distinct).mp isFormer
      refine ⟨other, ?_, isFound⟩
      have elsewhere : former ≠ index := by
        rintro rfl
        rw [isEntry, Option.some.injEq] at isOther
        exact isWanted (isOther ▸ isFound)
      by_cases isBefore : former < index
      · simp only [isBefore, ↓reduceIte, isOther]
      · rw [if_neg isBefore, if_neg (by omega), Nat.sub_add_cancel (by omega), isOther]

/-- An entry that is put in the place of another is found there, and the other one is no longer
found. -/
theorem position?_set {old : α} (isOld : entries[index]? = some old)
    (fresh : ∀ existing ∈ entries.eraseIdx index, same (key existing) (key entry) = false) :
    position? key same (entries.set index entry) wanted =
      if same (key entry) wanted = true then some index
      else if same (key old) wanted = true then none
      else position? key same entries wanted := by
  have inside : index < entries.length := (List.getElem?_eq_some_iff.mp isOld).1
  have symmetric (left right : α) : same (key left) (key right) = same (key right) (key left) :=
    Bool.eq_iff_iff.mpr ⟨equivalence.symm, equivalence.symm⟩
  have found (position : Nat) :
      position? key same (entries.set index entry) wanted = some position ↔
        ∃ other, (entries.set index entry)[position]? = some other ∧
          same (key other) wanted = true :=
    position?_eq_some_iff equivalence (distinct.set symmetric inside fresh)
  refine Option.ext fun position => ?_
  rw [found]
  by_cases isPlace : index = position
  · -- the place of the edit
    subst isPlace
    rw [List.getElem?_set_self inside]
    by_cases isWanted : same (key entry) wanted = true
    · simp [isWanted]
    · by_cases wasWanted : same (key old) wanted = true
      · simp [isWanted, wasWanted]
      · have notFound : position? key same entries wanted ≠ some index := by
          rw [Ne, position?_eq_some_iff equivalence distinct, isOld]
          simpa using wasWanted
        simp [isWanted, wasWanted, notFound]
  · rw [List.getElem?_set_ne isPlace, ← position?_eq_some_iff equivalence distinct]
    by_cases isWanted : same (key entry) wanted = true
    · rw [if_pos isWanted, Option.some.injEq]
      refine iff_of_false (fun alsoFound => ?_) isPlace
      obtain ⟨other, isOther, alsoWanted⟩ :=
        (position?_eq_some_iff equivalence distinct).mp alsoFound
      have isSame := equivalence.trans alsoWanted (equivalence.symm isWanted)
      have among := List.mem_eraseIdx_iff_getElem?.mpr ⟨position, Ne.symm isPlace, isOther⟩
      exact Bool.eq_false_iff.mp (fresh other among) isSame
    · rw [if_neg isWanted]
      by_cases wasWanted : same (key old) wanted = true
      · have wasFound := (position?_eq_some_iff equivalence distinct).mpr ⟨old, isOld, wasWanted⟩
        simp [wasWanted, wasFound, isPlace]
      · rw [if_neg wasWanted]

end Positions

end Onboarding
