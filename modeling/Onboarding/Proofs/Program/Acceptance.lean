import Onboarding.Proofs.Program.WellFormed
import Onboarding.Proofs.Session.Generation

/-! # Which answers a walk gets through with

When the service lets everything go on, only the answers decide whether a walk succeeds. Its
conditions are spread over the checks of four stages, the edits that add one entry after
another, and the check before a document is submitted. Entries are compared one at a time,
each with those that were added before it; together the comparisons say that the entries are
distinct (`Onboarding.Distinct.iff_fresh`).

All conditions taken together are `Onboarding.Answers.Acceptable`, and a walk succeeds exactly
if they hold (`Onboarding.walk_succeeds_iff_acceptable`). The branch is not among them, since
a repository that is named without one gets the default branch.
-/

namespace Onboarding

open CommandLine (AnswersSource)

/-- Entries are distinct if each of them differs from those before it. -/
theorem Distinct.iff_fresh {α : Type} {same : α → α → Bool} {entries : List α} :
    Distinct same entries ↔ ∀ index entry, entries[index]? = some entry →
      ∀ existing ∈ entries.take index, same existing entry = false := by
  rw [Distinct, List.pairwise_iff_getElem]
  constructor
  · intro distinct index entry isEntry existing member
    obtain ⟨inside, rfl⟩ := List.getElem?_eq_some_iff.mp isEntry
    obtain ⟨earlier, isBefore, rfl⟩ := List.mem_take_iff_getElem.mp member
    exact distinct earlier index _ inside (by omega)
  · intro fresh earlier later _ inside isBefore
    refine fresh later _ (List.getElem?_eq_getElem inside) _ ?_
    exact List.mem_take_iff_getElem.mpr ⟨earlier, by omega, rfl⟩

theorem isOk_iff_exists {ε α : Type} {result : Except ε α} :
    result.isOk = true ↔ ∃ value, result = .ok value := by
  cases result with
  | error error => simp [Except.isOk, Except.toBool]
  | ok value => simp [Except.isOk, Except.toBool]

/-- With a service that lets everything go on, only conditions stop anyone. -/
theorem Milestone.reached_iff {service : Service} {before : List Call}
    {milestones : List Milestone} (agreed : ∀ before call, service.affirms before call = true) :
    (travel service before milestones).2 = true ↔
      ∀ milestone ∈ milestones, milestone.isMet = true := by
  induction milestones generalizing before with
  | nil => simp [travel]
  | cons milestone rest ih =>
      rw [List.forall_mem_cons]
      cases milestone with
      | condition met =>
          cases met with
          | true => rw [travel_met, ih, isMet_condition, and_iff_right rfl]
          | false => simp [travel]
      | call next =>
          rw [travel_affirmed (agreed before next), ih, isMet_call, and_iff_right rfl]

/-- Texts differ if they do so in lower case. -/
theorem Text.sameIgnoringCase_eq_false_iff {left right : String} :
    sameIgnoringCase left right = false ↔ lower left ≠ lower right := by
  simp [sameIgnoringCase]

/-- Images differ if one of their parts does so in lower case. -/
theorem ImageTag.sameAs_eq_false_iff {left right : ImageTag} :
    left.sameAs right = false ↔
      ¬(Text.lower left.name = Text.lower right.name ∧
        Text.lower left.project = Text.lower right.project ∧
        Text.lower left.tag = Text.lower right.tag) := by
  rw [← Bool.not_eq_true]
  simp [sameAs, Text.sameIgnoringCase, and_assoc]

/-- A release is complete if there is none, or if its version is not blank. -/
theorem ReleaseChoice.isComplete_iff {release : ReleaseChoice} :
    release.isComplete = true ↔
      release.stream = .none ∨
        ∃ version, release.version = some version ∧ Text.isBlank version = false := by
  unfold isComplete
  cases release.version with
  | none => simp
  | some version => simp

/-- Build parameters are complete if the version and both commands are not empty; blank
ones are not empty. -/
theorem BuildPlan.isComplete_iff {plan : BuildPlan} :
    plan.isComplete = true ↔
      (∃ text, plan.goVersion = some text ∧ text ≠ "") ∧
        (∃ text, plan.buildCommands = some text ∧ text ≠ "") ∧
        ∃ text, plan.testBuildCommands = some text ∧ text ≠ "" := by
  simp [isComplete, Text.isFilled_iff]

namespace Answers

/-- What makes answers get through: the repository is named, the build is described, entries
are complete and distinct ignoring case, there is a test, and a release has a version. -/
structure Acceptable (answers : Answers) : Prop where
  org : Text.isBlank answers.org = false
  repo : Text.isBlank answers.repo = false
  goVersion : ∃ text, answers.build.goVersion = some text ∧ text ≠ ""
  buildCommands : ∃ text, answers.build.buildCommands = some text ∧ text ≠ ""
  testBuildCommands : ∃ text, answers.build.testBuildCommands = some text ∧ text ≠ ""
  images : ∀ image ∈ answers.build.baseImages,
    image.name ≠ "" ∧ image.project ≠ "" ∧ image.tag ≠ ""
  imagesDistinct : answers.build.baseImages.Pairwise fun left right =>
    ¬(Text.lower left.name = Text.lower right.name ∧
      Text.lower left.project = Text.lower right.project ∧
      Text.lower left.tag = Text.lower right.tag)
  substitutionsDistinct : ∀ bundle, answers.build.bundle = some bundle →
    bundle.substitutions.Pairwise fun left right =>
      Text.lower left.pullspec ≠ Text.lower right.pullspec
  someTest : answers.tests ≠ []
  tests : ∀ test ∈ answers.tests,
    Text.isBlank test.name = false ∧ ∃ text, test.commands = some text ∧ text ≠ ""
  testsDistinct : answers.tests.Pairwise fun left right =>
    Text.lower left.name ≠ Text.lower right.name
  release : answers.build.release.stream = .none ∨
    ∃ version, answers.build.release.version = some version ∧ Text.isBlank version = false

/-- Answers can be submitted if they are identified and their release is complete. -/
theorem isOk_submittable_iff {answers : Answers} :
    answers.submittable.isOk = true ↔
      answers.isIdentified = true ∧ answers.build.release.isComplete = true := by
  unfold submittable isIdentified
  cases answers.missingIdentity? with
  | some field => simp [Except.isOk, Except.toBool]
  | none => cases answers.build.release.isComplete <;> simp [Except.isOk, Except.toBool]

/-- A repository that is named is identified once its branch is settled. -/
theorem isIdentified_withBranch_iff {answers : Answers} :
    answers.withBranch.isIdentified = true ↔
      Text.isBlank answers.org = false ∧ Text.isBlank answers.repo = false := by
  have named : Text.isBlank defaultBranch = false := by decide
  rw [isIdentified_iff, withBranch_org, withBranch_repo]
  refine and_congr_right fun org => and_iff_left_of_imp fun repo => ?_
  unfold withBranch
  cases branch : Text.isBlank answers.branch with
  | false => simpa using branch
  | true => simpa [org, repo] using named

/-- The substitutions of answers are those of the bundle, if one is built. -/
theorem distinct_substitutions_iff {answers : Answers} {same : Substitution → Substitution → Bool} :
    Distinct same answers.substitutions ↔
      ∀ bundle, answers.build.bundle = some bundle → Distinct same bundle.substitutions := by
  unfold substitutions
  cases answers.build.bundle with
  | none => simp [Distinct]
  | some bundle => simp

/-- The conditions in the terms of the checks that they stand in. -/
theorem acceptable_iff {answers : Answers} :
    answers.Acceptable ↔
      (Text.isBlank answers.org = false ∧ Text.isBlank answers.repo = false) ∧
        answers.build.isComplete = true ∧ answers.WellFormed ∧ answers.tests ≠ [] ∧
        answers.build.release.isComplete = true := by
  constructor
  · intro acceptable
    have built := BuildPlan.isComplete_iff.mpr
      ⟨acceptable.goVersion, acceptable.buildCommands, acceptable.testBuildCommands⟩
    have wellFormed : answers.WellFormed := {
      imagesComplete := fun image member =>
        ImageTag.isComplete_iff.mpr (acceptable.images image member)
      imagesDistinct := acceptable.imagesDistinct.imp ImageTag.sameAs_eq_false_iff.mpr
      substitutionsDistinct := distinct_substitutions_iff.mpr fun bundle isBundle =>
        (acceptable.substitutionsDistinct bundle isBundle).imp
          Text.sameIgnoringCase_eq_false_iff.mpr
      testsComplete := fun test member => TestPlan.isComplete_iff.mpr (acceptable.tests test member)
      testsDistinct := acceptable.testsDistinct.imp Text.sameIgnoringCase_eq_false_iff.mpr }
    exact ⟨⟨acceptable.org, acceptable.repo⟩, built, wellFormed, acceptable.someTest,
      ReleaseChoice.isComplete_iff.mpr acceptable.release⟩
  · rintro ⟨⟨org, repo⟩, built, wellFormed, someTest, release⟩
    obtain ⟨goVersion, buildCommands, testBuildCommands⟩ := BuildPlan.isComplete_iff.mp built
    have substitutionsDistinct := distinct_substitutions_iff.mp wellFormed.substitutionsDistinct
    exact {
      org, repo, goVersion, buildCommands, testBuildCommands, someTest
      images := fun image member =>
        ImageTag.isComplete_iff.mp (wellFormed.imagesComplete image member)
      imagesDistinct := wellFormed.imagesDistinct.imp ImageTag.sameAs_eq_false_iff.mp
      substitutionsDistinct := fun bundle isBundle =>
        (substitutionsDistinct bundle isBundle).imp Text.sameIgnoringCase_eq_false_iff.mp
      tests := fun test member => TestPlan.isComplete_iff.mp (wellFormed.testsComplete test member)
      testsDistinct := wellFormed.testsDistinct.imp Text.sameIgnoringCase_eq_false_iff.mp
      release := ReleaseChoice.isComplete_iff.mp release }

/-- All entries of a list are added if they are complete and distinct, when each is added if it
is complete and differs from those before it. -/
theorem isMet_additions_iff {α : Type} {edit : α → Edit} {scope : Scope} {extra : α → Extra}
    {state : Nat → Answers} {entries : List α} {complete : α → Prop} {same : α → α → Bool}
    (added : ∀ index entry, entries[index]? = some entry →
      (((edit entry).apply (state index)).isOk = true ↔
        complete entry ∧ ∀ existing ∈ entries.take index, same existing entry = false)) :
    (∀ milestone ∈ additions edit scope extra state entries.zipIdx, milestone.isMet = true) ↔
      (∀ entry ∈ entries, complete entry) ∧ Distinct same entries := by
  have perEntry : (∀ milestone ∈ additions edit scope extra state entries.zipIdx,
      milestone.isMet = true) ↔
      ∀ index entry, entries[index]? = some entry →
        complete entry ∧ ∀ existing ∈ entries.take index, same existing entry = false := by
    simp only [additions, List.mem_flatMap, Prod.exists, List.mem_zipIdx_iff_getElem?]
    constructor
    · intro met index entry isEntry
      exact (added index entry isEntry).mp
        (met _ ⟨entry, index, isEntry, List.mem_cons_self⟩)
    · rintro fresh milestone ⟨entry, index, isEntry, member⟩
      rcases List.mem_pair.mp member with rfl | rfl
      · exact (added index entry isEntry).mpr (fresh index entry isEntry)
      · rfl
  rw [perEntry, Distinct.iff_fresh]
  constructor
  · intro fresh
    refine ⟨fun entry member => ?_, fun index entry isEntry => (fresh index entry isEntry).2⟩
    obtain ⟨index, isEntry⟩ := List.mem_iff_getElem?.mp member
    exact (fresh index entry isEntry).1
  · rintro ⟨whole, fresh⟩ index entry isEntry
    exact ⟨whole entry (List.mem_of_getElem? isEntry), fresh index entry isEntry⟩

section Stages

variable (answers : Answers)

/-- All images are added on the way if they are complete and distinct. -/
theorem isMet_images_iff {scope : Scope} {extra : ImageTag → Extra} :
    (∀ milestone ∈ additions .addImage scope extra answers.withFirstImages
        answers.build.baseImages.zipIdx, milestone.isMet = true) ↔
      (∀ image ∈ answers.build.baseImages, image.isComplete = true) ∧
        Distinct ImageTag.sameAs answers.build.baseImages := by
  refine isMet_additions_iff fun index image _ => ?_
  simp only [isOk_iff_exists, Edit.apply_addImage_iff, exists_and_left, exists_eq, and_true]
  rfl

/-- All substitutions are added on the way if they are distinct; a bundle is there whenever
there are any. -/
theorem isMet_substitutions_iff {scope : Scope} {extra : Substitution → Extra} :
    (∀ milestone ∈ additions .addSubstitution scope extra answers.withFirstSubstitutions
        answers.substitutions.zipIdx, milestone.isMet = true) ↔
      Distinct Substitution.samePullspec answers.substitutions := by
  have trivially : (∀ substitution ∈ answers.substitutions, True) ∧
      Distinct Substitution.samePullspec answers.substitutions ↔
        Distinct Substitution.samePullspec answers.substitutions :=
    and_iff_right fun _ _ => trivial
  refine (isMet_additions_iff fun index substitution isEntry => ?_).trans trivially
  -- there is no substitution to add unless a bundle is built
  have built : (answers.withFirstSubstitutions index).build.bundle.isSome = true := by
    unfold substitutions at isEntry
    unfold withFirstSubstitutions cut
    cases isBundle : answers.build.bundle with
    | none => simp [isBundle] at isEntry
    | some bundle => rfl
  simp only [isOk_iff_exists, Edit.apply_addSubstitution_iff, built, true_and, exists_and_left,
    exists_eq, and_true]
  rw [withFirstSubstitutions, substitutions_cut]

/-- All tests are added on the way if they are complete and distinct. -/
theorem isMet_tests_iff {scope : Scope} {extra : TestPlan → Extra} :
    (∀ milestone ∈ additions .addTest scope extra answers.withFirstTests
        answers.tests.zipIdx, milestone.isMet = true) ↔
      (∀ test ∈ answers.tests, test.isComplete = true) ∧
        Distinct TestPlan.sameName answers.tests := by
  refine isMet_additions_iff fun index test _ => ?_
  simp only [isOk_iff_exists, Edit.apply_addTest_iff, exists_and_left, exists_eq, and_true]
  rfl

/-- The conditions on the way to the end of the verify stage. -/
theorem isMet_stages_iff :
    (∀ milestone ∈ answers.stages, milestone.isMet = true) ↔
      answers.isIdentified = true ∧ answers.build.isComplete = true ∧ answers.WellFormed ∧
        answers.tests ≠ [] ∧ answers.build.release.isComplete = true := by
  have someTest : (!answers.tests.isEmpty) = true ↔ answers.tests ≠ [] := by simp
  simp only [stages, List.forall_mem_append, List.forall_mem_cons, isMet_images_iff,
    isMet_substitutions_iff, isMet_tests_iff, List.not_mem_nil, false_implies, implies_true,
    and_true, Milestone.isMet_condition, Milestone.isMet_call, someTest, isOk_submittable_iff]
  constructor
  · rintro ⟨identified, ⟨images, imagesDistinct⟩, substitutions, built, ⟨tests, testsDistinct⟩,
      nonempty, _, release⟩
    exact ⟨identified, built, ⟨images, imagesDistinct, substitutions, tests, testsDistinct⟩,
      nonempty, release⟩
  · rintro ⟨identified, built, wellFormed, nonempty, release⟩
    exact ⟨identified, ⟨wellFormed.imagesComplete, wellFormed.imagesDistinct⟩,
      wellFormed.substitutionsDistinct, built,
      ⟨wellFormed.testsComplete, wellFormed.testsDistinct⟩, nonempty, identified, release⟩

/-- The rendering and the generation at the end of an itinerary set no further condition. -/
theorem isMet_itinerary_iff (caller : Caller) (pullRequest dryRun : Bool) :
    (∀ milestone ∈ answers.itinerary caller pullRequest dryRun, milestone.isMet = true) ↔
      answers.Acceptable := by
  have calls : ∀ milestone ∈ Milestone.call (.convert (Document.ofAnswers answers.withBranch)) ::
      (if dryRun then []
        else [.call (.generate (Document.ofAnswers answers.withBranch) caller pullRequest)]),
      milestone.isMet = true := by
    cases dryRun <;> simp
  rw [itinerary, List.forall_mem_append, and_iff_left calls, isMet_stages_iff, acceptable_iff,
    isIdentified_withBranch_iff, withBranch_build, withBranch_tests, wellFormed_withBranch]

end Stages

end Answers

/-- With a service that lets everything go on, a walk of loaded answers succeeds exactly if
they are acceptable. -/
theorem walk_succeeds_iff_acceptable (service : Service)
    (agreed : ∀ before call, service.affirms before call = true) (files : Files)
    (address : String) (caller : Caller) (source : AnswersSource) (pullRequest dryRun : Bool)
    (answers : Answers)
    (loaded : AnswersFile.load files source.file source.assignments = .ok answers) :
    (Invocation.run service ⟨address, caller, .walk source pullRequest dryRun⟩
        files).output.isOk = true ↔ answers.Acceptable := by
  have travelled := (Session.walk_travels service answers caller pullRequest dryRun).1
  rw [Invocation.isOk_run_walk loaded, ← answers.isMet_itinerary_iff caller pullRequest dryRun,
    ← Milestone.reached_iff agreed, travelled]

/-- Answers that name no branch are acceptable. -/
theorem walk_succeeds_iff_acceptable_sample :
    Answers.sample.branch = "" ∧ Answers.sample.Acceptable := by
  let files : Files := fun _ => .ok Answers.sampleText.toUTF8
  let source : AnswersSource := ⟨"a.json", []⟩
  have loaded : AnswersFile.load files source.file source.assignments = .ok .sample :=
    AnswersFile.load_of_parse parse_sampleText
  have walked : (Session.walk .agreeable .sample .unknown false false).2.isOk = true := by
    decide +kernel
  have agreed (before : List Call) (call : Call) :
      Service.agreeable.affirms before call = true := by
    cases call <;> rfl
  refine ⟨rfl, ?_⟩
  exact (walk_succeeds_iff_acceptable .agreeable agreed files "" .unknown source false false
    .sample loaded).mp ((Invocation.isOk_run_walk loaded).trans walked)

end Onboarding
