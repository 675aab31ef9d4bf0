import Onboarding.Proofs.Answers.WellFormed
import Onboarding.Proofs.Document.Kernel

/-! # Documents without blank parts

Edits ask for a name that is not blank and for commands that are not empty when a test enters
the answers, and for three parts that are not empty when a base image does. So white space
alone passes for commands and for a part of a base image. Documents have such texts where the
answers have them, and what documents trim is empty there; in all else they are complete
(`Onboarding.Document.edited_complete_iff`).
-/

namespace Onboarding

/-- No part of an image tag is blank. -/
def ImageTag.IsFilled (image : ImageTag) : Prop :=
  Text.isBlank image.name = false ∧ Text.isBlank image.project = false ∧
    Text.isBlank image.tag = false

namespace CustomJob

theorem name_ofOther (test : TestPlan) : (ofOther test).name = Text.trim test.name := by
  unfold ofOther
  split <;> rfl

theorem command_ofOther (test : TestPlan) :
    (ofOther test).command = Text.trimOption test.commands := by
  unfold ofOther
  split <;> rfl

end CustomJob

namespace Document

/-- Every job has a name and a command, and every base image all its parts, none of them blank. -/
structure IsComplete (document : Document) : Prop where
  unitNames : ∀ job ∈ document.unitJobs, Text.isBlank job.name = false
  unitCommands : ∀ job ∈ document.unitJobs,
    ∃ command, job.command = some command ∧ Text.isBlank command = false
  customNames : ∀ job ∈ document.customJobs, Text.isBlank job.name = false
  customCommands : ∀ job ∈ document.customJobs, Text.isBlank job.command = false
  baseImages : ∀ name image, document.baseImages.find? name = some image → image.IsFilled

section

variable {answers : Answers}

/-- The unit jobs are those of the unit tests, taken over as they are. -/
theorem mem_unitJobs {job : UnitJob} :
    job ∈ (ofAnswers answers).unitJobs ↔
      ∃ test ∈ answers.tests, test.kind = .unit ∧ job = ⟨test.name, test.commands⟩ := by
  refine List.mem_filterMap.trans (exists_congr fun test => and_congr_right fun _ => ?_)
  unfold UnitJob.ofTest?
  cases test.kind <;> simp [eq_comm]

/-- The other jobs are those of the other tests. -/
theorem mem_customJobs {job : CustomJob} :
    job ∈ (ofAnswers answers).customJobs ↔
      ∃ test ∈ answers.tests, test.kind ≠ .unit ∧ job = CustomJob.ofOther test := by
  have isMapped : (ofAnswers answers).customJobs =
      (answers.tests.filter (·.kind ≠ .unit)).map CustomJob.ofOther :=
    CustomJob.filterMap_ofTest? answers.tests
  rw [isMapped, List.mem_map]
  constructor
  · rintro ⟨test, inOthers, rfl⟩
    obtain ⟨member, other⟩ := List.mem_filter.mp inOthers
    exact ⟨test, member, of_decide_eq_true other, rfl⟩
  · rintro ⟨test, member, other, rfl⟩
    exact ⟨test, List.mem_filter.mpr ⟨member, decide_eq_true other⟩, rfl⟩

/-- The image under a name is the last that was given it. -/
theorem find?_baseImages (name : String) :
    (ofAnswers answers).baseImages.find? name = answers.lastImage? name :=
  find?_imagesByName answers.build.baseImages name

/-- Well-formed answers give every unit job a name that is not blank and a command. -/
theorem unitJobs_of_wellFormed (wellFormed : answers.WellFormed) :
    ∀ job ∈ (ofAnswers answers).unitJobs, Text.isBlank job.name = false ∧
      ∃ command, job.command = some command ∧ command ≠ "" := by
  intro job isJob
  obtain ⟨test, member, _, rfl⟩ := mem_unitJobs.mp isJob
  exact TestPlan.isComplete_iff.mp (wellFormed.testsComplete test member)

/-- In the document of well-formed answers, no job is without a name. -/
theorem customJobs_of_wellFormed (wellFormed : answers.WellFormed) :
    ∀ job ∈ (ofAnswers answers).customJobs, Text.isBlank job.name = false := by
  intro job isJob
  obtain ⟨test, member, _, rfl⟩ := mem_customJobs.mp isJob
  rw [CustomJob.name_ofOther, Text.isBlank_trim]
  exact (TestPlan.isComplete_iff.mp (wellFormed.testsComplete test member)).1

/-- In the document of well-formed answers, every image is complete and stands under its
own name. -/
theorem baseImages_of_wellFormed (wellFormed : answers.WellFormed) :
    ∀ name image, (ofAnswers answers).baseImages.find? name = some image →
      image.name = name ∧ image.isComplete = true := by
  intro name image found
  have isLast : answers.build.baseImages.reverse.find? (·.name = name) = some image :=
    (find?_baseImages name).symm.trans found
  have isNamed := List.find?_some isLast
  refine ⟨of_decide_eq_true isNamed, ?_⟩
  exact wellFormed.imagesComplete image (List.mem_reverse.mp (List.mem_of_find?_eq_some isLast))

/-- A document has the commands of the answers, and they are blank there if they are here. -/
theorem commands_filled_of_isComplete (complete : (ofAnswers answers).IsComplete) :
    ∀ test ∈ answers.tests, ∀ commands, test.commands = some commands →
      Text.isBlank commands = false := by
  intro test member commands isGiven
  by_cases isUnit : test.kind = .unit
  · obtain ⟨command, isCommand, filled⟩ := complete.unitCommands _
      (mem_unitJobs.mpr ⟨test, member, isUnit, rfl⟩)
    obtain rfl : commands = command := Option.some.inj (isGiven.symm.trans isCommand)
    exact filled
  · have filled := complete.customCommands _ (mem_customJobs.mpr ⟨test, member, isUnit, rfl⟩)
    rw [CustomJob.command_ofOther, isGiven] at filled
    exact (Text.isBlank_trim commands).symm.trans filled

/-- Nothing but blank commands and blank parts of base images keeps the document of well-formed
answers from being complete. -/
theorem isComplete_iff (wellFormed : answers.WellFormed) :
    (ofAnswers answers).IsComplete ↔
      (∀ test ∈ answers.tests, ∀ commands, test.commands = some commands →
        Text.isBlank commands = false) ∧
      ∀ name image, answers.lastImage? name = some image → image.IsFilled := by
  have commandsGiven (test : TestPlan) (member : test ∈ answers.tests) :=
    (TestPlan.isComplete_iff.mp (wellFormed.testsComplete test member)).2
  constructor
  · intro complete
    refine ⟨commands_filled_of_isComplete complete, fun name image isLast => ?_⟩
    exact complete.baseImages name image ((find?_baseImages name).trans isLast)
  · rintro ⟨commandsFilled, imagesFilled⟩
    refine ⟨fun job isJob => (unitJobs_of_wellFormed wellFormed job isJob).1, ?_,
      customJobs_of_wellFormed wellFormed, ?_, ?_⟩
    · intro job isJob
      obtain ⟨test, member, _, rfl⟩ := mem_unitJobs.mp isJob
      obtain ⟨commands, isGiven, _⟩ := commandsGiven test member
      exact ⟨commands, isGiven, commandsFilled test member commands isGiven⟩
    · intro job isJob
      obtain ⟨test, member, _, rfl⟩ := mem_customJobs.mp isJob
      obtain ⟨commands, isGiven, _⟩ := commandsGiven test member
      rw [CustomJob.command_ofOther, isGiven]
      exact (Text.isBlank_trim commands).trans (commandsFilled test member commands isGiven)
    · intro name image found
      exact imagesFilled name image ((find?_baseImages name).symm.trans found)

end

/-- In the document of answers that come about by edits, names are not blank, every unit job has
a command and every base image its three parts, none of them empty. The document is complete
exactly if moreover no test has commands that are blank, and no base image that is the last of
its name has a blank part. -/
theorem edited_complete_iff (edits : List Edit) :
    let answers := Answers.blank.edited edits
    let document := ofAnswers answers
    (∀ job ∈ document.unitJobs, Text.isBlank job.name = false ∧
      ∃ command, job.command = some command ∧ command ≠ "") ∧
    (∀ job ∈ document.customJobs, Text.isBlank job.name = false) ∧
    (∀ name image, document.baseImages.find? name = some image → image.name = name ∧
      image.isComplete = true) ∧
    (document.IsComplete ↔
      (∀ test ∈ answers.tests, ∀ commands, test.commands = some commands →
        Text.isBlank commands = false) ∧
      ∀ name image, answers.lastImage? name = some image → image.IsFilled) := by
  intro answers document
  have wellFormed := Answers.wellFormed_blank.edited edits
  exact ⟨unitJobs_of_wellFormed wellFormed, customJobs_of_wellFormed wellFormed,
    baseImages_of_wellFormed wellFormed, isComplete_iff wellFormed⟩

/-- White space alone passes for the commands of a test and for the name of a base image. -/
theorem edited_with_blank_parts :
    let test : TestPlan :=
      { TestPlan.blank with name := "e2e", kind := .endToEnd, commands := some " " }
    let document := ofAnswers
      (Answers.blank.edited [.addTest test, .addImage ⟨" ", "ocp", "4.14"⟩])
    document.customJobs.map (fun job => (job.name, job.command)) = [("e2e", "")] ∧
      document.baseImages.find? " " = some ⟨" ", "ocp", "4.14"⟩ ∧ ¬document.IsComplete := by
  intro test document
  have hasJob : document.customJobs.map (fun job => (job.name, job.command)) = [("e2e", "")] := by
    decide +kernel
  have hasImage : document.baseImages.find? " " = some ⟨" ", "ocp", "4.14"⟩ := by
    decide +kernel
  refine ⟨hasJob, hasImage, fun isComplete => ?_⟩
  obtain ⟨isBlank, _⟩ := isComplete.baseImages _ _ hasImage
  exact absurd isBlank (by decide)

end Document

end Onboarding
