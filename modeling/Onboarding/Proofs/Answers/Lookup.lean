import Onboarding.Proofs.Edit.Position

/-! # Lookups in edited answers

Answers have three lists in which entries are looked up, and additions to them are refused for an
entry whose key is there already. The lookup and the refusal are made at different places and
compare keys each for itself. For entries with distinct keys they agree: what is found is refused
and what is refused is found, and after an edit that is accepted the lookup knows what has become
of every key (`Onboarding.Answers.lookups_agree_with_edits`).
-/

namespace Onboarding

/-- The position of the substitution for a pullspec. There is none when no bundle is built. -/
def Answers.findSubstitution? (answers : Answers) (pullspec : String) : Option Nat :=
  answers.build.bundle.bind (·.findSubstitution? pullspec)

/-- A substitution is looked up in the list of the bundle, or in no list at all. -/
theorem Answers.findSubstitution?_eq (answers : Answers) (pullspec : String) :
    answers.findSubstitution? pullspec =
      position? Substitution.pullspec Text.sameIgnoringCase answers.substitutions pullspec := by
  unfold findSubstitution? substitutions
  cases answers.build.bundle with
  | none => rfl
  | some bundle => rfl

/-- A list of the answers, with the edits of it and the lookup of its entries by their keys. -/
structure KeyedList (α κ : Type) where
  entries : Answers → List α
  key : α → κ
  same : κ → κ → Bool
  find? : Answers → κ → Option Nat
  add : α → Edit
  remove : Nat → Edit
  /-- When a new entry gets so far that its key is compared with those of the others. -/
  compares : Answers → α → Prop
  /-- The report of a key that is there already. -/
  duplicate : EditError

namespace KeyedList

/-- Tests are told apart by their names. -/
def tests : KeyedList TestPlan String where
  entries := Answers.tests
  key := TestPlan.name
  same := Text.sameIgnoringCase
  find? := Answers.findTest?
  add := .addTest
  remove := .removeTest
  compares _ _ := True
  duplicate := .duplicateTest

/-- Images are told apart by all three parts, and only complete ones are compared. -/
def images : KeyedList ImageTag ImageTag where
  entries answers := answers.build.baseImages
  key image := image
  same := ImageTag.sameAs
  find? answers := answers.build.findBaseImage?
  add := .addImage
  remove := .removeImage
  compares _ image := image.isComplete = true
  duplicate := .duplicateImage

/-- Substitutions are told apart by their pullspecs, if there is a bundle to put them into. -/
def substitutions : KeyedList Substitution String where
  entries := Answers.substitutions
  key := Substitution.pullspec
  same := Text.sameIgnoringCase
  find? := Answers.findSubstitution?
  add := .addSubstitution
  remove := .removeSubstitution
  compares answers _ := answers.build.bundle.isSome = true
  duplicate := .duplicateSubstitution

variable {α κ : Type} (list : KeyedList α κ)

/-- Lookups and edits of a list agree for some answers. An entry is refused as a duplicate if its
key is found. One that is added is found behind all others. One that is removed is no longer
found, and those behind it are found one place earlier. -/
structure Agrees (answers : Answers) : Prop where
  duplicate : ∀ entry, list.compares answers entry →
    ((list.add entry).apply answers = .error list.duplicate ↔
      (list.find? answers (list.key entry)).isSome = true)
  added : ∀ entry after, (list.add entry).apply answers = .ok after → ∀ key,
    list.find? after key =
      if list.same (list.key entry) key = true then some (list.entries answers).length
      else list.find? answers key
  removed : ∀ index after, (list.remove index).apply answers = .ok after →
    ∃ entry, (list.entries answers)[index]? = some entry ∧ ∀ key,
      list.find? after key =
        if list.same (list.key entry) key = true then none
        else (list.find? answers key).map fun position =>
          if position < index then position else position - 1

/-- Replacements in a list agree with lookups for some answers. An entry is refused the place of
another as a duplicate if its key is found at a different place. One that is accepted is found in
its place, and the one that was there is found no more, unless the two have the same key. -/
structure AgreesReplacing (replace : Nat → α → Edit) (answers : Answers) : Prop where
  duplicate : ∀ index entry, index < (list.entries answers).length →
    ((replace index entry).apply answers = .error list.duplicate ↔
      ∃ position, list.find? answers (list.key entry) = some position ∧ position ≠ index)
  replaced : ∀ index entry after, (replace index entry).apply answers = .ok after →
    (list.entries after).length = (list.entries answers).length ∧
      ∃ old, (list.entries answers)[index]? = some old ∧ ∀ key,
        list.find? after key =
          if list.same (list.key entry) key = true then some index
          else if list.same (list.key old) key = true then none
          else list.find? answers key

/-- Keys are compared by an equivalence and lookups yield the first position. Edits add behind all
others what is not there yet, refuse what is there, or remove it. -/
structure Lawful : Prop where
  equivalence : Equivalence fun left right => list.same left right = true
  find?_eq : ∀ answers wanted,
    list.find? answers wanted = position? list.key list.same (list.entries answers) wanted
  duplicate_iff : ∀ answers entry, list.compares answers entry →
    ((list.add entry).apply answers = .error list.duplicate ↔
      ∃ existing ∈ list.entries answers, list.same (list.key existing) (list.key entry) = true)
  of_add : ∀ answers entry after, (list.add entry).apply answers = .ok after →
    (∀ existing ∈ list.entries answers,
      list.same (list.key existing) (list.key entry) = false) ∧
    list.entries after = list.entries answers ++ [entry]
  of_remove : ∀ answers index after, (list.remove index).apply answers = .ok after →
    index < (list.entries answers).length ∧
    list.entries after = (list.entries answers).eraseIdx index

variable {list}

/-- Lookups agree with the edits of a lawful list whose keys are distinct. -/
theorem Lawful.agrees (lawful : list.Lawful) {answers : Answers}
    (distinct : Distinct (fun left right => list.same (list.key left) (list.key right))
      (list.entries answers)) : list.Agrees answers where
  duplicate := by
    intro entry compared
    rw [lawful.duplicate_iff answers entry compared, lawful.find?_eq, isSome_position?_iff]
  added := by
    intro entry after applied key
    obtain ⟨fresh, isAdded⟩ := lawful.of_add answers entry after applied
    rw [lawful.find?_eq, lawful.find?_eq, isAdded, position?_append lawful.equivalence fresh]
  removed := by
    intro index after applied
    obtain ⟨inside, isRemoved⟩ := lawful.of_remove answers index after applied
    have isEntry := List.getElem?_eq_getElem inside
    refine ⟨_, isEntry, fun key => ?_⟩
    rw [lawful.find?_eq, lawful.find?_eq, isRemoved,
      position?_eraseIdx lawful.equivalence distinct isEntry]

end KeyedList

/-- To be the same ignoring case is an equivalence, since both sides are put in lower case. -/
theorem Text.sameIgnoringCase_equivalence :
    Equivalence fun left right => sameIgnoringCase left right = true := by
  simp only [sameIgnoringCase, beq_iff_eq]
  exact ⟨fun _ => rfl, Eq.symm, Eq.trans⟩

/-- To be the same in all three parts is an equivalence too. -/
theorem ImageTag.sameAs_equivalence :
    Equivalence fun left right : ImageTag => left.sameAs right = true := by
  have part := Text.sameIgnoringCase_equivalence
  simp only [sameAs, Bool.and_eq_true]
  refine ⟨fun image => ⟨⟨part.refl _, part.refl _⟩, part.refl _⟩, ?_, ?_⟩
  · rintro left right ⟨⟨name, project⟩, tag⟩
    exact ⟨⟨part.symm name, part.symm project⟩, part.symm tag⟩
  · rintro left middle right ⟨⟨name, project⟩, tag⟩ ⟨⟨name', project'⟩, tag'⟩
    exact ⟨⟨part.trans name name', part.trans project project'⟩, part.trans tag tag'⟩

/-- Names are compared before anything else is asked of a test. -/
theorem TestPlan.admissible_eq_duplicate_iff {others : List TestPlan} {test : TestPlan} :
    admissible others test = .error .duplicateTest ↔
      ∃ existing ∈ others, existing.sameName test = true := by
  rw [← List.any_eq_true]
  unfold admissible
  by_cases present : others.any (·.sameName test) = true
  · simp [present]
  · by_cases complete : test.isComplete = true
    · simp [present, complete]
    · simp [present, complete]

/-- A test is refused as a duplicate if one of the others has its name, whatever else may
be wrong with it. -/
theorem TestPlan.apply_admissible_eq_duplicate_iff {others before made : List TestPlan}
    {test : TestPlan} :
    (do ofExcept (admissible others test); set made : InPlace EditError _ Unit).apply before =
        .error .duplicateTest ↔
      ∃ existing ∈ others, existing.sameName test = true := by
  rw [InPlace.apply_ofExcept_bind, ← admissible_eq_duplicate_iff]
  cases admissible others test with
  | ok _ => simp [Except.bind]
  | error _ => simp [Except.bind]

namespace Edit

variable {answers : Answers}

/-- A test is not added if its name is there already. -/
theorem apply_addTest_eq_duplicate_iff {test : TestPlan} :
    (addTest test).apply answers = .error .duplicateTest ↔
      ∃ existing ∈ answers.tests, existing.sameName test = true := by
  change (Answers.onTests (TestPlan.add test)).apply answers = _ ↔ _
  rw [Answers.onTests, InPlace.apply_part, map_eq_error_iff, TestPlan.add, InPlace.apply_get_bind,
    TestPlan.apply_admissible_eq_duplicate_iff]

/-- A test does not take the place of another if its name is there at a different place. -/
theorem apply_replaceTest_eq_duplicate_iff {index : Nat} {test : TestPlan}
    (inside : index < answers.tests.length) :
    (replaceTest index test).apply answers = .error .duplicateTest ↔
      ∃ existing ∈ answers.tests.eraseIdx index, existing.sameName test = true := by
  change (Answers.onTests (TestPlan.replace index test)).apply answers = _ ↔ _
  rw [Answers.onTests, InPlace.apply_part, map_eq_error_iff, TestPlan.replace,
    InPlace.apply_get_bind, InPlace.apply_require_bind, if_pos (decide_eq_true inside),
    TestPlan.apply_admissible_eq_duplicate_iff]

/-- A complete image is not added if it is there already. -/
theorem apply_addImage_eq_duplicate_iff {image : ImageTag} (complete : image.isComplete = true) :
    (addImage image).apply answers = .error .duplicateImage ↔
      ∃ existing ∈ answers.build.baseImages, existing.sameAs image = true := by
  change (Answers.onBuild (BuildPlan.addImage image)).apply answers = _ ↔ _
  rw [Answers.onBuild, InPlace.apply_part, map_eq_error_iff, BuildPlan.addImage,
    InPlace.apply_require_bind, if_pos complete, InPlace.apply_get_bind,
    InPlace.apply_require_bind, BuildPlan.findBaseImage?, ← Option.not_isSome, List.findIdx?_isSome,
    ← List.any_eq_true]
  cases answers.build.baseImages.any (·.sameAs image) <;> simp

/-- A substitution is not added to a bundle if its pullspec is there already. -/
theorem apply_addSubstitution_eq_duplicate_iff {substitution : Substitution}
    (built : answers.build.bundle.isSome = true) :
    (addSubstitution substitution).apply answers = .error .duplicateSubstitution ↔
      ∃ existing ∈ answers.substitutions, existing.samePullspec substitution = true := by
  obtain ⟨bundle, isBundle⟩ := Option.isSome_iff_exists.mp built
  have entries : answers.substitutions = bundle.substitutions := by
    rw [Answers.substitutions, isBundle, Option.map_some, Option.getD_some]
  change (Answers.onBundle (BundlePlan.built (BundlePlan.addSubstitution substitution))).apply
    answers = _ ↔ _
  rw [Answers.onBundle, Answers.onBuild, BuildPlan.onBundle, BundlePlan.built, InPlace.apply_part,
    InPlace.apply_part, isBundle, InPlace.apply_present_some, map_eq_error_iff, map_eq_error_iff,
    map_eq_error_iff, BundlePlan.addSubstitution, InPlace.apply_get_bind,
    InPlace.apply_require_bind, BundlePlan.findSubstitution?, ← Option.not_isSome,
    List.findIdx?_isSome, ← List.any_eq_true, entries]
  unfold Substitution.samePullspec
  cases bundle.substitutions.any
    fun existing => Text.sameIgnoringCase existing.pullspec substitution.pullspec <;> simp

end Edit

namespace KeyedList

/-- The list of the tests is lawful. -/
theorem lawful_tests : tests.Lawful where
  equivalence := Text.sameIgnoringCase_equivalence
  find?_eq _ _ := rfl
  duplicate_iff _ _ _ := Edit.apply_addTest_eq_duplicate_iff
  of_add := by
    intro answers test after applied
    obtain ⟨_, fresh, rfl⟩ := Edit.apply_addTest_iff.mp applied
    exact ⟨fresh, rfl⟩
  of_remove := by
    intro answers index after applied
    obtain ⟨inside, rfl⟩ := Edit.apply_removeTest_iff.mp applied
    exact ⟨inside, rfl⟩

/-- The list of the images is lawful. -/
theorem lawful_images : images.Lawful := by
  -- the fields are read off first, so that image tags are not compared by unfolding
  constructor <;> dsimp only [images]
  · exact ImageTag.sameAs_equivalence
  · exact fun _ _ => rfl
  · exact fun _ _ complete => Edit.apply_addImage_eq_duplicate_iff complete
  · intro answers image after applied
    obtain ⟨_, fresh, rfl⟩ := Edit.apply_addImage_iff.mp applied
    exact ⟨fresh, rfl⟩
  · intro answers index after applied
    obtain ⟨inside, rfl⟩ := Edit.apply_removeImage_iff.mp applied
    exact ⟨inside, rfl⟩

/-- The list of the substitutions is lawful. There are none without a bundle. -/
theorem lawful_substitutions : substitutions.Lawful where
  equivalence := Text.sameIgnoringCase_equivalence
  find?_eq := Answers.findSubstitution?_eq
  duplicate_iff _ _ built := Edit.apply_addSubstitution_eq_duplicate_iff built
  of_add := by
    intro answers substitution after applied
    obtain ⟨built, fresh, rfl⟩ := Edit.apply_addSubstitution_iff.mp applied
    exact ⟨fresh, Answers.substitutions_withSubstitutions built _⟩
  of_remove := by
    intro answers index after applied
    obtain ⟨built, inside, rfl⟩ := Edit.apply_removeSubstitution_iff.mp applied
    exact ⟨inside, Answers.substitutions_withSubstitutions built _⟩

/-- Replacements of tests agree with lookups of their names. -/
theorem tests_agrees_replacing {answers : Answers}
    (distinct : Distinct TestPlan.sameName answers.tests) :
    tests.AgreesReplacing .replaceTest answers where
  duplicate := by
    intro index test inside
    have found (position : Nat) : answers.findTest? test.name = some position ↔
        ∃ existing, answers.tests[position]? = some existing ∧ existing.sameName test = true :=
      position?_eq_some_iff Text.sameIgnoringCase_equivalence distinct
    simp only [tests, Edit.apply_replaceTest_eq_duplicate_iff inside, found,
      List.mem_eraseIdx_iff_getElem?]
    constructor
    · rintro ⟨existing, ⟨position, elsewhere, isExisting⟩, isSame⟩
      exact ⟨position, ⟨existing, isExisting, isSame⟩, elsewhere⟩
    · rintro ⟨position, ⟨existing, isExisting, isSame⟩, elsewhere⟩
      exact ⟨existing, ⟨position, elsewhere, isExisting⟩, isSame⟩
  replaced := by
    intro index test after applied
    obtain ⟨inside, _, fresh, rfl⟩ := Edit.apply_replaceTest_iff.mp applied
    have isOld := List.getElem?_eq_getElem inside
    refine ⟨List.length_set, _, isOld, fun name => ?_⟩
    exact position?_set Text.sameIgnoringCase_equivalence distinct isOld fresh

end KeyedList

namespace Answers

/-- No two entries of a list have the same key. -/
structure HasDistinctKeys (answers : Answers) : Prop where
  tests : Distinct TestPlan.sameName answers.tests
  images : Distinct ImageTag.sameAs answers.build.baseImages
  substitutions : Distinct Substitution.samePullspec answers.substitutions

/-- When entries have distinct keys, lookups agree with all edits of the three lists. Only tests can
be replaced. -/
theorem lookups_agree_with_edits (answers : Answers) (distinct : answers.HasDistinctKeys) :
    KeyedList.tests.Agrees answers ∧ KeyedList.images.Agrees answers ∧
      KeyedList.substitutions.Agrees answers ∧
      KeyedList.tests.AgreesReplacing .replaceTest answers := by
  refine ⟨KeyedList.lawful_tests.agrees distinct.tests, ?_,
    KeyedList.lawful_substitutions.agrees distinct.substitutions,
    KeyedList.tests_agrees_replacing distinct.tests⟩
  refine KeyedList.lawful_images.agrees ?_
  dsimp only [KeyedList.images]
  exact distinct.images

/-- A test "LINT" is a duplicate of the second test, but may take its place; without the first test
the third one is found second. -/
theorem lookups_agree_with_edits_sample :
    let test (name : String) : TestPlan := { TestPlan.blank with name, commands := some "make" }
    let answers := blank.withTests [test "unit", test "lint", test "e2e"]
    answers.HasDistinctKeys ∧
      (Edit.addTest (test "LINT")).apply answers = .error .duplicateTest ∧
      (Edit.replaceTest 0 (test "LINT")).apply answers = .error .duplicateTest ∧
      (Edit.replaceTest 1 (test "LINT")).apply answers ≠ .error .duplicateTest ∧
      ∃ after, (Edit.removeTest 0).apply answers = .ok after ∧
        after.findTest? "UNIT" = none ∧ after.findTest? "E2E" = some 1 := by
  intro test answers
  have distinct : answers.HasDistinctKeys := ⟨by decide, .nil, .nil⟩
  obtain ⟨tests, _, _, replacing⟩ := lookups_agree_with_edits answers distinct
  have found : KeyedList.tests.find? answers "LINT" = some 1 := by decide
  have removed : (Edit.removeTest 0).apply answers =
      .ok (blank.withTests [test "lint", test "e2e"]) := rfl
  obtain ⟨first, isFirst, finds⟩ := tests.removed 0 _ removed
  obtain rfl : test "unit" = first := Option.some.inj isFirst
  dsimp only [KeyedList.tests] at finds
  refine ⟨distinct, ?_, ?_, ?_, _, removed, ?_, ?_⟩
  · exact (tests.duplicate (test "LINT") trivial).mpr (by decide)
  · exact (replacing.duplicate 0 (test "LINT") (by decide)).mpr ⟨1, found, by decide⟩
  · intro refused
    obtain ⟨position, alsoFound, elsewhere⟩ :=
      (replacing.duplicate 1 (test "LINT") (by decide)).mp refused
    exact elsewhere (Option.some.inj (alsoFound.symm.trans found))
  · exact (finds "UNIT").trans (by decide)
  · exact (finds "E2E").trans (by decide)

end Answers

end Onboarding
