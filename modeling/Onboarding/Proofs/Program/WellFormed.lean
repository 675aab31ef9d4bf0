import Onboarding.Proofs.Answers.WellFormed
import Onboarding.Proofs.Program.Walk
import Onboarding.Proofs.Session.Lasting

/-! # Well-formed answers in sessions and walks

Well-formedness lasts: whatever is done in a session that was opened on well-formed
answers, and whatever the service says to it, the answers stay well formed. A walk starts
on answers without base images, substitutions and tests, which are well formed whatever
the file holds, and ends with the answers of the file; so a walk that succeeds is the
proof that the file was well formed.
-/

namespace Onboarding

open CommandLine (AnswersSource)

namespace Answers

/-- Well-formedness does not depend on the branch. -/
theorem wellFormed_withBranch {answers : Answers} :
    answers.withBranch.WellFormed ↔ answers.WellFormed := by
  unfold withBranch
  split
  · constructor
    · intro wellFormed
      exact { wellFormed with }
    · intro wellFormed
      exact { wellFormed with }
  · exact Iff.rfl

/-- To be well formed lasts. -/
theorem lasting_wellFormed : Lasting WellFormed where
  branch _ wellFormed := wellFormed_withBranch.mpr wellFormed
  edit _ _ _ applied wellFormed := wellFormed.apply applied

/-- What a walk starts on is well formed, whatever the answers are. -/
theorem wellFormed_seed (answers : Answers) : answers.seed.WellFormed where
  imagesComplete _ member := absurd member List.not_mem_nil
  imagesDistinct := List.Pairwise.nil
  substitutionsDistinct := by
    rw [← cut_zero, substitutions_cut]
    exact List.Pairwise.nil
  testsComplete _ member := absurd member List.not_mem_nil
  testsDistinct := List.Pairwise.nil

end Answers

/-- A session opened on well-formed answers has well-formed answers in every state that it
reaches, and a walk succeeds on well-formed answers only. -/
theorem answers_stay_wellFormed (service : Service) :
    (∀ (answers : Answers) (caller : Caller) (operations : List Operation),
      answers.WellFormed →
      ((Session.start service answers caller).run service operations).answers.WellFormed) ∧
    ∀ (files : Files) (address : String) (caller : Caller) (source : AnswersSource)
      (pullRequest dryRun : Bool) (answers : Answers),
      AnswersFile.load files source.file source.assignments = .ok answers →
      (Invocation.run service ⟨address, caller, .walk source pullRequest dryRun⟩
        files).output.isOk = true →
      answers.WellFormed := by
  refine ⟨fun answers caller operations wellFormed => ?_, ?_⟩
  · refine Answers.lasting_wellFormed.run _ ?_ operations
    exact Answers.lasting_wellFormed.enter
      ⟨answers, .repository, .fresh .repository, caller, []⟩ wellFormed .repository
  · intro files address caller source pullRequest dryRun answers loaded succeeded
    have walked : (Session.walk service answers caller pullRequest dryRun).2.isOk = true :=
      Invocation.isOk_run_walk loaded ▸ succeeded
    have isWhole := (Session.walk_travels service answers caller pullRequest dryRun).2 walked
    have lasted := Answers.lasting_wellFormed.walk answers.wellFormed_seed walked
    rw [isWhole] at lasted
    exact Answers.wellFormed_withBranch.mp lasted

section Sample

/-- The text of a file that holds the sample answers. -/
def Answers.sampleText : String :=
  "\x7b\"org\":\"o\",\"repo\":\"r\",\"buildSettings\":\x7b\"goVersion\":\"1\"," ++
    "\"buildCommands\":\"m\",\"testBuildCommands\":\"m\"," ++
    "\"baseImages\":[\x7b\"name\":\"i\",\"namespace\":\"n\",\"tag\":\"t\"\x7d]\x7d," ++
    "\"tests\":[\x7b\"name\":\"u\",\"type\":\"Unit\",\"testCommands\":\"m\"\x7d]\x7d"

/-- The sample is read from its text. -/
theorem parse_sampleText : AnswersFile.parse "a.json" Answers.sampleText = .ok .sample := by
  decide +kernel

/-- What the text of a file is read as, is loaded from the file. -/
theorem AnswersFile.load_of_parse {name text : String} {answers : Answers}
    (parsed : parse name text = .ok answers) :
    load (fun _ => .ok text.toUTF8) name [] = .ok answers := by
  have isText : String.fromUTF8? text.toUTF8 = some text := dif_pos text.isValidUTF8
  unfold load read
  simp only [isText, parsed]
  rfl

/-- With one base image and one test, more can be added, and a walk succeeds. -/
theorem sample_stays_wellFormed :
    let service := Service.agreeable
    ((Session.start service .sample .unknown).run service
      [.next, .addImage ⟨"j", "n", "t"⟩, .next,
        .updateTest "U" { TestPlan.blank with name := "v", commands := some "m" }]
      ).answers.WellFormed ∧
    Answers.sample.WellFormed := by
  let files : Files := fun _ => .ok Answers.sampleText.toUTF8
  let source : AnswersSource := ⟨"a.json", []⟩
  have loaded : AnswersFile.load files source.file source.assignments = .ok .sample :=
    AnswersFile.load_of_parse parse_sampleText
  have walked : (Session.walk .agreeable .sample .unknown false false).2.isOk = true := by
    decide +kernel
  refine ⟨(answers_stay_wellFormed _).1 _ _ _ (by decide), ?_⟩
  exact (answers_stay_wellFormed .agreeable).2 files "" .unknown source false false .sample loaded
    ((Invocation.isOk_run_walk loaded).trans walked)

end Sample

end Onboarding
