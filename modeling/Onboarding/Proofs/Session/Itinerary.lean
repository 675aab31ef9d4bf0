import Onboarding.Proofs.Edit.Lists
import Onboarding.Proofs.Session.Milestone
import Onboarding.Session.Walk

/-! # The itinerary of a walk

A walk of answers through all stages has an itinerary, which the answers alone lay
out: the lookup of the repository, a validation for every entry of the three lists in
order, the validation of the whole document, its rendering and its generation, with
the conditions under which a stage is left or an entry is added between them
(`Onboarding.Answers.itinerary`). The document of a validation is that of the answers
cut down to the entries added so far (`Onboarding.Answers.cut`).

The calls among all that are the ideal calls of a walk
(`Onboarding.Answers.calls_itinerary`).
-/

namespace Onboarding

namespace Answers

/-- The answers with only so many entries of each list. -/
def cut (answers : Answers) (images substitutions tests : Nat) : Answers :=
  { answers with
    build := { answers.build with
      baseImages := answers.build.baseImages.take images
      bundle := answers.build.bundle.map fun bundle =>
        { bundle with substitutions := bundle.substitutions.take substitutions } }
    tests := answers.tests.take tests }

/-- Without any entries, answers are cut down to where a walk begins. -/
theorem cut_zero (answers : Answers) : answers.cut 0 0 0 = answers.seed := rfl

/-- The answers when some images have been added, and nothing else yet. -/
def withFirstImages (answers : Answers) (count : Nat) : Answers := answers.cut count 0 0

/-- The answers with all base images and so many substitutions added. -/
def withFirstSubstitutions (answers : Answers) (count : Nat) : Answers :=
  answers.cut answers.build.baseImages.length count 0

/-- The answers with all base images and substitutions and so many tests added. -/
def withFirstTests (answers : Answers) (count : Nat) : Answers :=
  answers.cut answers.build.baseImages.length answers.substitutions.length count

@[simp] theorem withBranch_org (answers : Answers) : answers.withBranch.org = answers.org := by
  unfold withBranch
  split <;> rfl

@[simp] theorem withBranch_repo (answers : Answers) : answers.withBranch.repo = answers.repo := by
  unfold withBranch
  split <;> rfl

@[simp] theorem withBranch_build (answers : Answers) :
    answers.withBranch.build = answers.build := by
  unfold withBranch
  split <;> rfl

@[simp] theorem withBranch_tests (answers : Answers) :
    answers.withBranch.tests = answers.tests := by
  unfold withBranch
  split <;> rfl

@[simp] theorem withBranch_substitutions (answers : Answers) :
    answers.withBranch.substitutions = answers.substitutions := by
  unfold substitutions
  rw [withBranch_build]

/-- Entries have no part in identifying the answers. -/
@[simp] theorem isIdentified_cut (answers : Answers) (images substitutions tests : Nat) :
    (answers.cut images substitutions tests).isIdentified = answers.isIdentified := rfl

/-- It does not matter whether the entries are cut before the branch is settled. -/
theorem withBranch_cut (answers : Answers) (images substitutions tests : Nat) :
    (answers.cut images substitutions tests).withBranch =
      answers.withBranch.cut images substitutions tests := by
  unfold withBranch cut
  split <;> rfl

/-- The substitutions of a cut are the first ones; if there are none, it does not matter
that there may be no bundle. -/
theorem substitutions_cut (answers : Answers) (images substitutions tests : Nat) :
    (answers.cut images substitutions tests).substitutions =
      answers.substitutions.take substitutions := by
  unfold Answers.substitutions cut
  cases answers.build.bundle with
  | none => exact List.take_nil.symm
  | some bundle => rfl

/-- With all tests added, the answers are whole. -/
theorem withFirstTests_length (answers : Answers) :
    answers.withFirstTests answers.tests.length = answers := by
  unfold withFirstTests cut Answers.substitutions
  obtain ⟨org, repo, branch, plan, tests⟩ := answers
  obtain ⟨promotes, inRelease, needsBase, needsOs, goVersion, importPath, buildCommands,
    testBuildCommands, baseImages, bundle, release⟩ := plan
  cases bundle <;> simp

/-- Adding the next base image makes the cut one base image longer. -/
theorem apply_addImage_cut {answers after : Answers} {index : Nat} {image : ImageTag}
    (isNext : answers.build.baseImages[index]? = some image)
    (applied : (Edit.addImage image).apply (answers.withFirstImages index) = .ok after) :
    after = answers.withFirstImages (index + 1) := by
  obtain ⟨_, _, rfl⟩ := Edit.apply_addImage_iff.mp applied
  have longer : answers.build.baseImages.take (index + 1) =
      answers.build.baseImages.take index ++ [image] := by
    rw [List.take_add_one, isNext, Option.toList_some]
  unfold withFirstImages cut withImages
  rw [longer]

/-- Adding the next substitution leads from one cut to the next. -/
theorem apply_addSubstitution_cut {answers after : Answers} {index : Nat}
    {substitution : Substitution} (isNext : answers.substitutions[index]? = some substitution)
    (applied : (Edit.addSubstitution substitution).apply
      (answers.withFirstSubstitutions index) = .ok after) :
    after = answers.withFirstSubstitutions (index + 1) := by
  obtain ⟨_, _, rfl⟩ := Edit.apply_addSubstitution_iff.mp applied
  have longer : answers.substitutions.take (index + 1) =
      answers.substitutions.take index ++ [substitution] := by
    rw [List.take_add_one, isNext, Option.toList_some]
  unfold withFirstSubstitutions
  rw [substitutions_cut, ← longer]
  unfold cut withSubstitutions Answers.substitutions
  cases answers.build.bundle <;> rfl

/-- Adding the next test leads from one cut to the next. -/
theorem apply_addTest_cut {answers after : Answers} {index : Nat} {test : TestPlan}
    (isNext : answers.tests[index]? = some test)
    (applied : (Edit.addTest test).apply (answers.withFirstTests index) = .ok after) :
    after = answers.withFirstTests (index + 1) := by
  obtain ⟨_, _, rfl⟩ := Edit.apply_addTest_iff.mp applied
  have longer : answers.tests.take (index + 1) = answers.tests.take index ++ [test] := by
    rw [List.take_add_one, isNext, Option.toList_some]
  unfold withFirstTests cut withTests
  rw [longer]

/-! ## The way laid out -/

/-- The milestones of adding entries, each with its index, in one state after another. -/
def additions {α : Type} (edit : α → Edit) (scope : Scope) (extra : α → Extra)
    (state : Nat → Answers) (entries : List (α × Nat)) : List Milestone :=
  entries.flatMap fun (entry, index) =>
    [.condition ((edit entry).apply (state index)).isOk,
      .call (.validate scope (Document.ofAnswers (state (index + 1))) (extra entry))]

/-- What a walk of the answers has to get past to the end of the verify stage, when
their branch is settled. -/
def stages (answers : Answers) : List Milestone :=
  [.condition answers.isIdentified, .call (Session.lookupCall answers)] ++
    (additions .addImage .baseImages (fun _ => KeyMap.empty) answers.withFirstImages
        answers.build.baseImages.zipIdx ++
      (additions .addSubstitution .operatorSubstitution Session.substitutionData
          answers.withFirstSubstitutions answers.substitutions.zipIdx ++
        ([.condition answers.build.isComplete] ++
          (additions .addTest .tests (fun _ => KeyMap.empty) answers.withFirstTests
              answers.tests.zipIdx ++
            [.condition !answers.tests.isEmpty, .condition answers.submittable.isOk,
              .call (Session.fullValidation answers)]))))

/-- That the answers can be submitted is one of the conditions on the way. -/
theorem submittable_mem_stages (answers : Answers) :
    .condition answers.submittable.isOk ∈ answers.stages := by
  simp only [stages, List.mem_append, List.mem_cons, true_or, or_true]

/-- What a walk of the answers has to get past. -/
def itinerary (answers : Answers) (caller : Caller) (pullRequest dryRun : Bool) :
    List Milestone :=
  let settled := answers.withBranch
  settled.stages ++ .call (.convert (Document.ofAnswers settled)) ::
    if dryRun then [] else [.call (.generate (Document.ofAnswers settled) caller pullRequest)]

/-- The calls of a walk that reaches its end. The validations of entries show the
documents of the answers cut down to the entries added so far, all others that of the
whole answers. -/
def idealCalls (answers : Answers) (caller : Caller) (pullRequest dryRun : Bool) : List Call :=
  let settled := answers.withBranch
  let images := answers.build.baseImages
  let substitutions := answers.substitutions
  [.lookup (Text.trim answers.org) (Text.trim answers.repo)] ++
    (images.zipIdx.map fun (_, index) =>
      .validate .baseImages (Document.ofAnswers (settled.cut (index + 1) 0 0)) KeyMap.empty) ++
    (substitutions.zipIdx.map fun (substitution, index) =>
      .validate .operatorSubstitution
        (Document.ofAnswers (settled.cut images.length (index + 1) 0))
        (Session.substitutionData substitution)) ++
    (answers.tests.zipIdx.map fun (_, index) =>
      .validate .tests
        (Document.ofAnswers (settled.cut images.length substitutions.length (index + 1)))
        KeyMap.empty) ++
    [.validate .all (Document.ofAnswers settled) KeyMap.empty,
      .convert (Document.ofAnswers settled)] ++
    if dryRun then [] else [.generate (Document.ofAnswers settled) caller pullRequest]

/-- Additions on the way make one validation each, of the document with the entry added. -/
theorem calls_additions {α : Type} (edit : α → Edit) (scope : Scope) (extra : α → Extra)
    (state : Nat → Answers) (entries : List (α × Nat)) :
    Milestone.calls (additions edit scope extra state entries) =
      entries.map fun (entry, index) =>
        .validate scope (Document.ofAnswers (state (index + 1))) (extra entry) := by
  unfold additions Milestone.calls
  induction entries with
  | nil => rfl
  | cons entry entries ih =>
      rw [List.flatMap_cons, List.filterMap_append, ih]
      rfl

/-- The calls on the way are the ideal ones. -/
theorem calls_itinerary (answers : Answers) (caller : Caller) (pullRequest dryRun : Bool) :
    Milestone.calls (answers.itinerary caller pullRequest dryRun) =
      answers.idealCalls caller pullRequest dryRun := by
  have append (first second : List Milestone) : Milestone.calls (first ++ second) =
      Milestone.calls first ++ Milestone.calls second := List.filterMap_append
  unfold itinerary stages idealCalls
  simp only [append, calls_additions, withBranch_build, withBranch_substitutions,
    withBranch_tests, withFirstImages, withFirstSubstitutions, withFirstTests,
    Session.lookupCall, withBranch_org, withBranch_repo, List.append_assoc]
  cases dryRun <;> rfl

end Answers

end Onboarding
