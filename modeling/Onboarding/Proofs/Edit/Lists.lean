import Onboarding.Edit.Basic
import Onboarding.Proofs.Edit.InPlace
import Onboarding.Session.Walk

/-! # Edits of the lists

Answers hold three lists: base images, substitutions and tests. Each edit of a list
is accepted under a condition on the entries that are there, and puts another list in
the place of the old one; the statements give both for each of the edits. All other
edits leave the entries as they are, save that ceasing to build a bundle discards its
substitutions (`Onboarding.Edit.lists_of_scalar`).
-/

namespace Onboarding

/-- Whether two substitutions are for the same pullspec, ignoring case. -/
def Substitution.samePullspec (left right : Substitution) : Bool :=
  Text.sameIgnoringCase left.pullspec right.pullspec

namespace Answers

/-- The answers with other base images. -/
def withImages (answers : Answers) (images : List ImageTag) : Answers :=
  { answers with build := { answers.build with baseImages := images } }

/-- The answers with other substitutions, if a bundle is built. -/
def withSubstitutions (answers : Answers) (substitutions : List Substitution) : Answers :=
  { answers with
    build := { answers.build with
      bundle := answers.build.bundle.map fun bundle => { bundle with substitutions } } }

/-- The answers with other tests. -/
def withTests (answers : Answers) (tests : List TestPlan) : Answers :=
  { answers with tests }

/-- A change of the build parameters comes to answers with the changed ones. -/
theorem onBuild_eq_ok_iff {answers after : Answers} {change : InPlace EditError BuildPlan Unit} :
    (onBuild change).apply answers = .ok after ↔
      ∃ build, change.apply answers.build = .ok build ∧ after = { answers with build } := by
  rw [onBuild, InPlace.apply_part]
  exact map_eq_ok_iff

/-- Only a bundle that is built has a plan to change. -/
theorem onBuiltBundle_eq_ok_iff {answers after : Answers}
    {change : InPlace EditError BundlePlan Unit} :
    (onBundle (BundlePlan.built change)).apply answers = .ok after ↔
      ∃ bundle, answers.build.bundle = some bundle ∧ ∃ changed, change.apply bundle = .ok changed ∧
        after = { answers with build := { answers.build with bundle := some changed } } := by
  rw [onBundle, onBuild, BuildPlan.onBundle, BundlePlan.built, InPlace.apply_part,
    InPlace.apply_part]
  cases answers.build.bundle with
  | none => simp [Except.map]
  | some bundle =>
      simp only [InPlace.apply_present_some, map_eq_ok_iff]
      constructor
      · rintro ⟨_, ⟨_, ⟨changed, made, rfl⟩, rfl⟩, rfl⟩
        exact ⟨bundle, rfl, changed, made, rfl⟩
      · rintro ⟨_, ⟨⟩, changed, made, rfl⟩
        exact ⟨_, ⟨_, ⟨changed, made, rfl⟩, rfl⟩, rfl⟩

theorem onTests_eq_ok_iff {answers after : Answers}
    {change : InPlace EditError (List TestPlan) Unit} :
    (onTests change).apply answers = .ok after ↔
      ∃ tests, change.apply answers.tests = .ok tests ∧ after = answers.withTests tests := by
  rw [onTests, InPlace.apply_part]
  exact map_eq_ok_iff

/-- Substitutions can be put only into a bundle that is built. -/
theorem substitutions_withSubstitutions {answers : Answers}
    (built : answers.build.bundle.isSome = true) (substitutions : List Substitution) :
    (answers.withSubstitutions substitutions).substitutions = substitutions := by
  obtain ⟨bundle, isBundle⟩ := Option.isSome_iff_exists.mp built
  simp only [Answers.substitutions, withSubstitutions, isBundle, Option.map_some, Option.getD_some]

end Answers

/-- An entry is removed if there is one at the index. -/
theorem removeEntry_eq_ok_iff {α : Type} {entries after : List α} {index : Nat} :
    (removeEntry index).apply entries = .ok after ↔
      index < entries.length ∧ after = entries.eraseIdx index := by
  unfold removeEntry
  by_cases inside : index < entries.length
  · simp [inside, eq_comm]
  · simp [inside]

/-- An image is added to build parameters if it is complete and there is none like it. -/
theorem BuildPlan.addImage_eq_ok_iff {plan after : BuildPlan} {image : ImageTag} :
    (addImage image).apply plan = .ok after ↔
      image.isComplete = true ∧ (∀ existing ∈ plan.baseImages, existing.sameAs image = false) ∧
        after = { plan with baseImages := plan.baseImages ++ [image] } := by
  have fresh_iff : (plan.findBaseImage? image).isNone = true ↔
      ∀ existing ∈ plan.baseImages, existing.sameAs image = false :=
    Option.isNone_iff_eq_none.trans List.findIdx?_eq_none_iff
  rw [← fresh_iff]
  unfold addImage
  by_cases complete : image.isComplete = true
  · by_cases fresh : (plan.findBaseImage? image).isNone = true
    · simp [complete, fresh, eq_comm]
    · simp [complete, fresh]
  · simp [complete]

/-- An image is removed from build parameters if there is one at the index. -/
theorem BuildPlan.removeImage_eq_ok_iff {plan after : BuildPlan} {index : Nat} :
    (removeImage index).apply plan = .ok after ↔
      index < plan.baseImages.length ∧
        after = { plan with baseImages := plan.baseImages.eraseIdx index } := by
  rw [removeImage, InPlace.apply_part, map_eq_ok_iff]
  simp only [removeEntry_eq_ok_iff, and_assoc, exists_and_left, exists_eq_left]

/-- A substitution is added to a bundle if its pullspec is new there. -/
theorem BundlePlan.addSubstitution_eq_ok_iff {plan after : BundlePlan}
    {substitution : Substitution} :
    (addSubstitution substitution).apply plan = .ok after ↔
      (∀ existing ∈ plan.substitutions, existing.samePullspec substitution = false) ∧
        after = { plan with substitutions := plan.substitutions ++ [substitution] } := by
  have fresh_iff : (plan.findSubstitution? substitution.pullspec).isNone = true ↔
      ∀ existing ∈ plan.substitutions, existing.samePullspec substitution = false :=
    Option.isNone_iff_eq_none.trans List.findIdx?_eq_none_iff
  rw [← fresh_iff]
  unfold addSubstitution
  by_cases fresh : (plan.findSubstitution? substitution.pullspec).isNone = true
  · simp [fresh, eq_comm]
  · simp [fresh]

/-- A substitution is removed from a bundle if there is one at the index. -/
theorem BundlePlan.removeSubstitution_eq_ok_iff {plan after : BundlePlan} {index : Nat} :
    (removeSubstitution index).apply plan = .ok after ↔
      index < plan.substitutions.length ∧
        after = { plan with substitutions := plan.substitutions.eraseIdx index } := by
  rw [removeSubstitution, InPlace.apply_part, map_eq_ok_iff]
  simp only [removeEntry_eq_ok_iff, and_assoc, exists_and_left, exists_eq_left]

namespace TestPlan

/-- A test is admitted among others if it is complete and its name is new. -/
theorem admissible_eq_ok_iff {others : List TestPlan} {test : TestPlan} {result : Unit} :
    admissible others test = .ok result ↔
      test.isComplete = true ∧ ∀ existing ∈ others, existing.sameName test = false := by
  unfold admissible
  by_cases duplicate : others.any (·.sameName test) = true
  · simp only [duplicate, ↓reduceIte, reduceCtorEq, false_iff, not_and]
    intro _ distinct
    obtain ⟨existing, member, same⟩ := List.any_eq_true.mp duplicate
    exact absurd same (by rw [distinct existing member]; exact Bool.false_ne_true)
  · have distinct : ∀ existing ∈ others, existing.sameName test = false := by
      simpa using duplicate
    by_cases complete : test.isComplete = true
    · simpa [duplicate, complete] using distinct
    · simp [duplicate, complete]

/-- A test that is put into a list once it is admitted. -/
theorem apply_admissible_iff {others before made after : List TestPlan} {test : TestPlan} :
    (do ofExcept (admissible others test); set made : InPlace EditError _ Unit).apply before
        = .ok after ↔
      test.isComplete = true ∧ (∀ existing ∈ others, existing.sameName test = false) ∧
        after = made := by
  rw [InPlace.apply_ofExcept_bind]
  refine bind_eq_ok_iff.trans ⟨?_, ?_⟩
  · rintro ⟨_, admitted, ⟨⟩⟩
    obtain ⟨complete, distinct⟩ := admissible_eq_ok_iff.mp admitted
    exact ⟨complete, distinct, rfl⟩
  · rintro ⟨complete, distinct, rfl⟩
    exact ⟨(), admissible_eq_ok_iff.mpr ⟨complete, distinct⟩, rfl⟩

theorem add_eq_ok_iff {tests after : List TestPlan} {test : TestPlan} :
    (add test).apply tests = .ok after ↔
      test.isComplete = true ∧ (∀ existing ∈ tests, existing.sameName test = false) ∧
        after = tests ++ [test] := by
  rw [add, InPlace.apply_get_bind]
  exact apply_admissible_iff

/-- A test takes the place of another if it is admitted among the rest. -/
theorem replace_eq_ok_iff {tests after : List TestPlan} {index : Nat} {test : TestPlan} :
    (replace index test).apply tests = .ok after ↔
      index < tests.length ∧ test.isComplete = true ∧
        (∀ existing ∈ tests.eraseIdx index, existing.sameName test = false) ∧
        after = tests.set index test := by
  rw [replace, InPlace.apply_get_bind, InPlace.apply_require_bind]
  by_cases inside : index < tests.length
  · rw [if_pos (decide_eq_true inside), apply_admissible_iff]
    exact (and_iff_right inside).symm
  · simp [inside]

end TestPlan

namespace Edit

variable {answers after : Answers}

/-- A base image is added if it is complete and no other is the same. -/
theorem apply_addImage_iff {image : ImageTag} :
    (addImage image).apply answers = .ok after ↔
      image.isComplete = true ∧
        (∀ existing ∈ answers.build.baseImages, existing.sameAs image = false) ∧
        after = answers.withImages (answers.build.baseImages ++ [image]) := by
  change (Answers.onBuild (BuildPlan.addImage image)).apply answers = .ok after ↔ _
  simp only [Answers.onBuild_eq_ok_iff, BuildPlan.addImage_eq_ok_iff]
  constructor
  · rintro ⟨build, ⟨complete, distinct, rfl⟩, same⟩
    exact ⟨complete, distinct, same⟩
  · rintro ⟨complete, distinct, same⟩
    exact ⟨_, ⟨complete, distinct, rfl⟩, same⟩

/-- An image is removed if there is one at the index. -/
theorem apply_removeImage_iff {index : Nat} :
    (removeImage index).apply answers = .ok after ↔
      index < answers.build.baseImages.length ∧
        after = answers.withImages (answers.build.baseImages.eraseIdx index) := by
  change (Answers.onBuild (BuildPlan.removeImage index)).apply answers = .ok after ↔ _
  simp only [Answers.onBuild_eq_ok_iff, BuildPlan.removeImage_eq_ok_iff]
  constructor
  · rintro ⟨build, ⟨inside, rfl⟩, same⟩
    exact ⟨inside, same⟩
  · rintro ⟨inside, same⟩
    exact ⟨_, ⟨inside, rfl⟩, same⟩

/-- A substitution is added if a bundle is built and its pullspec is new. -/
theorem apply_addSubstitution_iff {substitution : Substitution} :
    (addSubstitution substitution).apply answers = .ok after ↔
      answers.build.bundle.isSome = true ∧
        (∀ existing ∈ answers.substitutions, existing.samePullspec substitution = false) ∧
        after = answers.withSubstitutions (answers.substitutions ++ [substitution]) := by
  change (Answers.onBundle (BundlePlan.built (BundlePlan.addSubstitution substitution))).apply
    answers = .ok after ↔ _
  simp only [Answers.onBuiltBundle_eq_ok_iff, BundlePlan.addSubstitution_eq_ok_iff,
    Answers.withSubstitutions, Answers.substitutions]
  constructor
  · rintro ⟨bundle, built, changed, ⟨distinct, rfl⟩, same⟩
    simp only [built, Option.isSome_some, Option.map_some, Option.getD_some]
    exact ⟨trivial, distinct, same⟩
  · rintro ⟨isBuilt, distinct, same⟩
    obtain ⟨bundle, built⟩ := Option.isSome_iff_exists.mp isBuilt
    simp only [built, Option.map_some, Option.getD_some] at distinct same
    exact ⟨bundle, built, _, ⟨distinct, rfl⟩, same⟩

/-- A substitution is removed if a bundle is built and has one at the index. -/
theorem apply_removeSubstitution_iff {index : Nat} :
    (removeSubstitution index).apply answers = .ok after ↔
      answers.build.bundle.isSome = true ∧ index < answers.substitutions.length ∧
        after = answers.withSubstitutions (answers.substitutions.eraseIdx index) := by
  change (Answers.onBundle (BundlePlan.built (BundlePlan.removeSubstitution index))).apply
    answers = .ok after ↔ _
  simp only [Answers.onBuiltBundle_eq_ok_iff, BundlePlan.removeSubstitution_eq_ok_iff,
    Answers.withSubstitutions, Answers.substitutions]
  constructor
  · rintro ⟨bundle, built, changed, ⟨inside, rfl⟩, same⟩
    simp only [built, Option.isSome_some, Option.map_some, Option.getD_some]
    exact ⟨trivial, inside, same⟩
  · rintro ⟨isBuilt, inside, same⟩
    obtain ⟨bundle, built⟩ := Option.isSome_iff_exists.mp isBuilt
    simp only [built, Option.map_some, Option.getD_some] at inside same
    exact ⟨bundle, built, _, ⟨inside, rfl⟩, same⟩

/-- A test is added if it is complete and its name is new. -/
theorem apply_addTest_iff {test : TestPlan} :
    (addTest test).apply answers = .ok after ↔
      test.isComplete = true ∧ (∀ existing ∈ answers.tests, existing.sameName test = false) ∧
        after = answers.withTests (answers.tests ++ [test]) := by
  change (Answers.onTests (TestPlan.add test)).apply answers = .ok after ↔ _
  simp only [Answers.onTests_eq_ok_iff, TestPlan.add_eq_ok_iff]
  constructor
  · rintro ⟨tests, ⟨complete, distinct, rfl⟩, same⟩
    exact ⟨complete, distinct, same⟩
  · rintro ⟨complete, distinct, same⟩
    exact ⟨_, ⟨complete, distinct, rfl⟩, same⟩

/-- A test is put in the place of another if it is complete and none of the rest has
its name. -/
theorem apply_replaceTest_iff {index : Nat} {test : TestPlan} :
    (replaceTest index test).apply answers = .ok after ↔
      index < answers.tests.length ∧ test.isComplete = true ∧
        (∀ existing ∈ answers.tests.eraseIdx index, existing.sameName test = false) ∧
        after = answers.withTests (answers.tests.set index test) := by
  change (Answers.onTests (TestPlan.replace index test)).apply answers = .ok after ↔ _
  simp only [Answers.onTests_eq_ok_iff, TestPlan.replace_eq_ok_iff]
  constructor
  · rintro ⟨tests, ⟨inside, complete, distinct, rfl⟩, same⟩
    exact ⟨inside, complete, distinct, same⟩
  · rintro ⟨inside, complete, distinct, same⟩
    exact ⟨_, ⟨inside, complete, distinct, rfl⟩, same⟩

/-- A test is removed if there is one at the index. -/
theorem apply_removeTest_iff {index : Nat} :
    (removeTest index).apply answers = .ok after ↔
      index < answers.tests.length ∧
        after = answers.withTests (answers.tests.eraseIdx index) := by
  change (Answers.onTests (removeEntry index)).apply answers = .ok after ↔ _
  simp only [Answers.onTests_eq_ok_iff, removeEntry_eq_ok_iff]
  constructor
  · rintro ⟨tests, ⟨inside, rfl⟩, same⟩
    exact ⟨inside, same⟩
  · rintro ⟨inside, same⟩
    exact ⟨_, ⟨inside, rfl⟩, same⟩

/-- Whether an edit is one of a list. -/
def isOfList : Edit → Bool
  | addImage _ | removeImage _ | addSubstitution _ | removeSubstitution _ => true
  | addTest _ | replaceTest _ _ | removeTest _ => true
  | _ => false

/-- An edit of no list keeps the base images and the tests, and keeps the
substitutions or leaves none. -/
theorem lists_of_scalar {edit : Edit} (scalar : edit.isOfList = false)
    (applied : edit.apply answers = .ok after) :
    after.build.baseImages = answers.build.baseImages ∧ after.tests = answers.tests ∧
      (after.substitutions = answers.substitutions ∨ after.substitutions = []) := by
  cases edit with
  | identity field text =>
      cases applied
      cases field <;> exact ⟨rfl, rfl, .inl rfl⟩
  | promotion flag value =>
      cases applied
      cases flag <;> exact ⟨rfl, rfl, .inl rfl⟩
  | buildText field text =>
      cases applied
      cases field <;> exact ⟨rfl, rfl, .inl rfl⟩
  | enableBundle =>
      cases applied
      refine ⟨rfl, rfl, ?_⟩
      cases built : answers.build.bundle with
      | none => exact .inr (by simp [Answers.substitutions, built, BundlePlan.blank])
      | some bundle => exact .inl (by simp [Answers.substitutions, built])
  | disableBundle =>
      cases applied
      exact ⟨rfl, rfl, .inr rfl⟩
  | bundleText field text =>
      obtain ⟨bundle, built, changed, same, rfl⟩ := Answers.onBuiltBundle_eq_ok_iff.mp applied
      cases same
      refine ⟨rfl, rfl, .inl ?_⟩
      cases field <;> simp [Answers.substitutions, built, BundlePlan.withText]
  | upgrade strategy =>
      obtain ⟨bundle, built, changed, same, rfl⟩ := Answers.onBuiltBundle_eq_ok_iff.mp applied
      cases same
      exact ⟨rfl, rfl, .inl (by simp [Answers.substitutions, built])⟩
  | releaseStream stream =>
      cases applied
      exact ⟨rfl, rfl, .inl rfl⟩
  | releaseVersion text =>
      cases applied
      exact ⟨rfl, rfl, .inl rfl⟩
  | addImage _ | removeImage _ | addSubstitution _ | removeSubstitution _ => cases scalar
  | addTest _ | replaceTest _ _ | removeTest _ => cases scalar

end Edit

end Onboarding
