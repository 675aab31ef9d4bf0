import Onboarding.Proofs.Answers.Lookup

/-! # Undoing edits of the lists

An edit of a list is accepted only if the entries stay complete and distinct. For well-formed
answers this is no obstacle on the way back: an entry that was added can be removed again, one
that was removed behind all others can be added again, and one that was replaced can be put in its
place again. Each of these edits is accepted and leads to the very answers from before
(`Onboarding.Answers.edits_of_lists_are_undone`).
-/

namespace Onboarding

namespace KeyedList

variable {α κ : Type} (list : KeyedList α κ)

/-- The edits of a list can be undone for some answers, and exactly the entries that are there can
be removed. -/
structure Undoes (answers : Answers) : Prop where
  added : ∀ entry after, (list.add entry).apply answers = .ok after →
    (list.remove (list.entries answers).length).apply after = .ok answers
  removed : ∀ index entry after, index + 1 = (list.entries answers).length →
    (list.entries answers)[index]? = some entry →
    (list.remove index).apply answers = .ok after → (list.add entry).apply after = .ok answers
  removable : ∀ index, (∃ after, (list.remove index).apply answers = .ok after) ↔
    index < (list.entries answers).length

/-- The replacements in a list can be undone for some answers. -/
def UndoesReplacing (replace : Nat → α → Edit) (answers : Answers) : Prop :=
  ∀ index old entry after, (list.entries answers)[index]? = some old →
    (replace index entry).apply answers = .ok after → (replace index old).apply after = .ok answers

/-- The edits of a list put other entries into the answers and change nothing else. What fits may
be added if its key is not there yet, and whether it fits is not up to the entries. -/
structure PutsEntries (put : Answers → List α → Answers) (fits : Answers → α → Prop) : Prop where
  add_iff : ∀ answers entry after, (list.add entry).apply answers = .ok after ↔
    fits answers entry ∧
      (∀ existing ∈ list.entries answers,
        list.same (list.key existing) (list.key entry) = false) ∧
      after = put answers (list.entries answers ++ [entry])
  remove_iff : ∀ answers index after, (list.remove index).apply answers = .ok after ↔
    index < (list.entries answers).length ∧
      after = put answers ((list.entries answers).eraseIdx index)
  put_put : ∀ answers entries others, put (put answers entries) others = put answers others
  put_entries : ∀ answers, put answers (list.entries answers) = answers
  fits_put : ∀ answers entries entry, fits (put answers entries) entry ↔ fits answers entry

variable {list} {put : Answers → List α → Answers} {fits : Answers → α → Prop}

/-- Edits that put entries into a lawful list undo each other. -/
theorem PutsEntries.undoes (puts : list.PutsEntries put fits) (lawful : list.Lawful)
    {answers : Answers} (fit : ∀ entry ∈ list.entries answers, fits answers entry)
    (distinct : Distinct (fun left right => list.same (list.key left) (list.key right))
      (list.entries answers)) : list.Undoes answers where
  added := by
    intro entry after applied
    obtain ⟨_, isAdded⟩ := lawful.of_add answers entry after applied
    obtain ⟨_, _, rfl⟩ := (puts.add_iff answers entry after).mp applied
    refine (puts.remove_iff _ _ _).mpr ⟨?_, ?_⟩
    · rw [isAdded, List.length_append, List.length_singleton]
      exact Nat.lt_succ_self _
    · rw [isAdded, List.eraseIdx_append_of_length_le (Nat.le_refl _), Nat.sub_self,
        List.eraseIdx_cons_zero, List.append_nil, puts.put_put, puts.put_entries]
  removed := by
    intro index entry after isLast isEntry applied
    obtain ⟨inside, isRemoved⟩ := lawful.of_remove answers index after applied
    obtain ⟨_, rfl⟩ := (puts.remove_iff answers index after).mp applied
    obtain ⟨_, rfl⟩ := List.getElem?_eq_some_iff.mp isEntry
    have split : (list.entries answers).eraseIdx index ++ [(list.entries answers)[index]] =
        list.entries answers := by
      rw [List.eraseIdx_eq_take_drop_succ, isLast, List.drop_length, List.append_nil,
        List.take_append_getElem inside, isLast, List.take_length]
    refine (puts.add_iff _ _ _).mpr ⟨?_, ?_, ?_⟩
    · exact (puts.fits_put _ _ _).mpr (fit _ (List.getElem_mem inside))
    · rw [isRemoved]
      intro existing member
      rw [← split] at distinct
      exact (List.pairwise_append.mp distinct).2.2 existing member _ (List.mem_singleton_self _)
    · rw [isRemoved, split, puts.put_put, puts.put_entries]
  removable := by
    intro index
    constructor
    · rintro ⟨after, applied⟩
      exact ((puts.remove_iff answers index after).mp applied).1
    · intro inside
      exact ⟨_, (puts.remove_iff answers index _).mpr ⟨inside, rfl⟩⟩

/-- Complete tests are put among the tests. -/
theorem putsEntries_tests :
    tests.PutsEntries Answers.withTests fun _ test => test.isComplete = true where
  add_iff _ _ _ := Edit.apply_addTest_iff
  remove_iff _ _ _ := Edit.apply_removeTest_iff
  put_put _ _ _ := rfl
  put_entries _ := rfl
  fits_put _ _ _ := Iff.rfl

/-- Complete images are put among the images. -/
theorem putsEntries_images :
    images.PutsEntries Answers.withImages fun _ image => image.isComplete = true where
  add_iff := by
    -- the fields are read off first, so that image tags are not compared by unfolding
    dsimp only [images]
    exact fun _ _ _ => Edit.apply_addImage_iff
  remove_iff := by
    dsimp only [images]
    exact fun _ _ _ => Edit.apply_removeImage_iff
  put_put _ _ _ := rfl
  put_entries _ := rfl
  fits_put _ _ _ := Iff.rfl

/-- Any substitutions are put into a bundle that is built. -/
theorem putsEntries_substitutions :
    substitutions.PutsEntries Answers.withSubstitutions
      fun answers _ => answers.build.bundle.isSome = true where
  add_iff _ _ _ := Edit.apply_addSubstitution_iff
  remove_iff answers index after := by
    -- without a bundle there is nothing to remove
    have built : index < answers.substitutions.length → answers.build.bundle.isSome = true := by
      unfold Answers.substitutions
      cases answers.build.bundle with
      | none => exact fun inside => absurd inside (Nat.not_lt_zero _)
      | some bundle => exact fun _ => rfl
    exact Edit.apply_removeSubstitution_iff.trans
      ⟨And.right, fun ⟨inside, same⟩ => ⟨built inside, inside, same⟩⟩
  put_put answers entries others := by
    unfold Answers.withSubstitutions
    cases answers.build.bundle <;> rfl
  put_entries := by
    rintro ⟨org, repo, branch, build, tests⟩
    rcases build with ⟨_, _, _, _, _, _, _, _, _, _ | bundle, _⟩ <;> rfl
  fits_put answers entries _ := by
    unfold Answers.withSubstitutions
    cases answers.build.bundle <;> exact Iff.rfl

/-- What was replaced differs from all the rest, so it may take its place again. -/
theorem tests_undoes_replacing {answers : Answers}
    (complete : ∀ test ∈ answers.tests, test.isComplete = true)
    (distinct : Distinct TestPlan.sameName answers.tests) :
    tests.UndoesReplacing .replaceTest answers := by
  intro index old test after isOld applied
  change answers.tests[index]? = some old at isOld
  obtain ⟨inside, rfl⟩ := List.getElem?_eq_some_iff.mp isOld
  obtain ⟨_, _, _, rfl⟩ := Edit.apply_replaceTest_iff.mp applied
  have reordered := List.getElem_cons_eraseIdx_perm inside
  have others := reordered.symm.pairwise distinct fun {left right} differ =>
    (TestPlan.sameName_comm right left).trans differ
  have restored : (answers.tests.set index test).set index answers.tests[index] =
      answers.tests := by
    rw [List.set_set, List.set_getElem_self]
  refine Edit.apply_replaceTest_iff.mpr ⟨?_, complete _ (List.getElem_mem inside), ?_, ?_⟩
  · exact List.length_set.symm ▸ inside
  · intro existing member
    have rest : (answers.withTests (answers.tests.set index test)).tests.eraseIdx index =
        answers.tests.eraseIdx index := List.eraseIdx_set_eq
    rw [rest] at member
    exact (TestPlan.sameName_comm _ _).trans ((List.pairwise_cons.mp others).1 existing member)
  · exact (congrArg answers.withTests restored).symm

end KeyedList

namespace Answers

/-- For well-formed answers every edit of a list can be undone. Only tests can be replaced. -/
theorem edits_of_lists_are_undone (answers : Answers) (wellFormed : answers.WellFormed) :
    KeyedList.images.Undoes answers ∧ KeyedList.substitutions.Undoes answers ∧
      KeyedList.tests.Undoes answers ∧ KeyedList.tests.UndoesReplacing .replaceTest answers := by
  refine ⟨?_, ?_, ?_, ?_⟩
  · refine KeyedList.putsEntries_images.undoes KeyedList.lawful_images ?_ ?_
    all_goals dsimp only [KeyedList.images]
    · exact wellFormed.imagesComplete
    · exact wellFormed.imagesDistinct
  · refine KeyedList.putsEntries_substitutions.undoes KeyedList.lawful_substitutions ?_
      wellFormed.substitutionsDistinct
    intro substitution member
    change substitution ∈ answers.substitutions at member
    unfold Answers.substitutions at member
    cases built : answers.build.bundle with
    | none => simp [built] at member
    | some bundle => rfl
  · exact KeyedList.putsEntries_tests.undoes KeyedList.lawful_tests wellFormed.testsComplete
      wellFormed.testsDistinct
  · exact KeyedList.tests_undoes_replacing wellFormed.testsComplete wellFormed.testsDistinct

/-- A test that took the place of another under the same name is replaced by it again. -/
theorem edits_of_lists_are_undone_sample :
    let test (name : String) : TestPlan := { TestPlan.blank with name, commands := some "make" }
    let answers := blank.withTests [test "unit", test "lint"]
    answers.WellFormed ∧
      (∃ after, (Edit.replaceTest 1 (test "LINT")).apply answers = .ok after ∧
        (Edit.replaceTest 1 (test "lint")).apply after = .ok answers) ∧
      (∃ after, (Edit.addTest (test "e2e")).apply answers = .ok after ∧
        (Edit.removeTest 2).apply after = .ok answers) := by
  intro test answers
  have wellFormed : answers.WellFormed := by decide
  obtain ⟨_, _, undoes, replaces⟩ := edits_of_lists_are_undone answers wellFormed
  have replaced : (Edit.replaceTest 1 (test "LINT")).apply answers =
      .ok (blank.withTests [test "unit", test "LINT"]) :=
    Edit.apply_replaceTest_iff.mpr ⟨by decide, by decide, by decide, rfl⟩
  have added : (Edit.addTest (test "e2e")).apply answers =
      .ok (blank.withTests [test "unit", test "lint", test "e2e"]) :=
    Edit.apply_addTest_iff.mpr ⟨by decide, by decide, rfl⟩
  exact ⟨wellFormed, ⟨_, replaced, replaces 1 (test "lint") (test "LINT") _ rfl replaced⟩,
    _, added, undoes.added (test "e2e") _ added⟩

end Answers

end Onboarding
