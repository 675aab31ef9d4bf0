import Mathlib.Data.List.Basic
import Onboarding.Proofs.Program.Walk

/-! # What a command generates

Two commands generate a pipeline: one does nothing else, the other walks the answers through
all stages first. What a command has to get past is laid out in the answers that it loads
(`Onboarding.Command.itinerary`), and a generation, where there is one, lies at the end of it.
So a generation is the last call of a run and its only one of that kind, and whatever is laid
out before it was got past when it is made (`Onboarding.generation_concludes_run`).
-/

namespace Onboarding

open CommandLine (Command Invocation)

/-- Whether a pipeline is generated. -/
def Call.isGeneration : Call → Bool
  | .generate _ _ _ => true
  | .validate _ _ _ | .convert _ | .lookup _ _ => false

/-- Whether a milestone is the generation of a pipeline. -/
def Milestone.isGeneration : Milestone → Bool
  | .call asked => asked.isGeneration
  | .condition _ => false

namespace Command

/-- Whether a command is to generate a pipeline, and then whether as a pull request. -/
def generates? : Command → Option Bool
  | .generate _ pullRequest | .walk _ pullRequest false => some pullRequest
  | .document _ | .validate _ _ | .preview _ | .walk _ _ true => none

/-- The answers whose document a command shows in the end. Only a walk settles the branch. -/
def submitted (answers : Answers) : Command → Answers
  | .walk _ _ _ => answers.withBranch
  | .document _ | .validate _ _ | .preview _ | .generate _ _ => answers

/-- What a command has to get past, once its answers are loaded. -/
def itinerary (caller : Caller) (answers : Answers) : Command → List Milestone
  | .document _ => []
  | .validate _ scope => [.call (.validate scope (Document.ofAnswers answers) KeyMap.empty)]
  | .preview _ => [.call (.convert (Document.ofAnswers answers))]
  | .generate _ pullRequest =>
    [.condition answers.submittable.isOk,
      .call (.generate (Document.ofAnswers answers) caller pullRequest)]
  | .walk _ pullRequest dryRun => answers.itinerary caller pullRequest dryRun

/-- What a command has to get past before it generates a pipeline. -/
def preparation (answers : Answers) : Command → List Milestone
  | .generate _ _ => [.condition answers.submittable.isOk]
  | .walk _ _ _ =>
    answers.withBranch.stages ++ [.call (.convert (Document.ofAnswers answers.withBranch))]
  | .document _ | .validate _ _ | .preview _ => []

variable (service : Service) (caller : Caller) (answers : Answers) (command : Command)

/-- A command travels along its itinerary, and one that is to generate a pipeline yields a text
exactly if it reaches the end. -/
theorem runOn_travels :
    ∃ reached, Milestone.travel service [] (itinerary caller answers command) =
        ((runOn service command caller answers).asked, reached) ∧
      ((generates? command).isSome = true →
        (runOn service command caller answers).output.isOk = reached) := by
  cases command with
  | document source => exact ⟨true, rfl, fun generates => nomatch generates⟩
  | validate source scope => exact ⟨_, Milestone.travel_call, fun generates => nomatch generates⟩
  | preview source => exact ⟨_, Milestone.travel_call, fun generates => nomatch generates⟩
  | generate source pullRequest =>
      simp only [itinerary, runOn]
      cases answers.submittable with
      | error error => exact ⟨false, rfl, fun _ => rfl⟩
      | ok _ =>
          refine ⟨_, Milestone.travel_call, fun _ => ?_⟩
          simp only [RunResult.single, Service.affirms]
          cases service.generate [] (Document.ofAnswers answers) caller pullRequest <;> rfl
  | walk source pullRequest dryRun =>
      refine ⟨_, (Session.walk_travels service answers caller pullRequest dryRun).1, fun _ => ?_⟩
      simp only [runOn]
      cases (Session.walk service answers caller pullRequest dryRun).2 <;> rfl

/-- A generation that is to be made lies at the end of the itinerary. -/
theorem itinerary_of_generates {command : Command} {pullRequest : Bool}
    (generates : generates? command = some pullRequest) :
    itinerary caller answers command =
      preparation answers command ++
        [.call (.generate (Document.ofAnswers (submitted answers command)) caller
          pullRequest)] := by
  cases command with
  | document _ | validate _ _ | preview _ => cases generates
  | generate source _ =>
      cases generates
      rfl
  | walk source _ dryRun =>
      cases dryRun with
      | true => cases generates
      | false =>
          cases generates
          exact List.append_cons ..

end Command

namespace Answers

/-- No addition on the way is a generation. -/
theorem isGeneration_additions {α : Type} (edit : α → Edit) (scope : Scope) (extra : α → Extra)
    (state : Nat → Answers) (entries : List (α × Nat)) :
    ∀ milestone ∈ additions edit scope extra state entries, milestone.isGeneration = false := by
  intro milestone member
  obtain ⟨⟨entry, index⟩, _, isOfEntry⟩ := List.mem_flatMap.mp member
  rcases List.mem_pair.mp isOfEntry with rfl | rfl <;> rfl

/-- Nothing is generated before the end of the verify stage. -/
theorem isGeneration_stages (answers : Answers) :
    ∀ milestone ∈ answers.stages, milestone.isGeneration = false := by
  simp only [stages, List.forall_mem_append, List.forall_mem_cons, List.not_mem_nil,
    false_implies, implies_true, and_true]
  exact ⟨⟨rfl, rfl⟩, isGeneration_additions _ _ _ _ _, isGeneration_additions _ _ _ _ _, rfl,
    isGeneration_additions _ _ _ _ _, rfl, rfl, rfl⟩

/-- The last call on the way to the end of the verify stage is the validation of the whole
document. -/
theorem exists_stages_eq (answers : Answers) :
    ∃ earlier, answers.stages = earlier ++ [.call (Session.fullValidation answers)] := by
  apply List.getLast?_eq_some_iff.mp
  simp only [stages, List.getLast?_append]
  rfl

end Answers

namespace Command

/-- What comes before a generation is none. -/
theorem isGeneration_preparation (answers : Answers) (command : Command) :
    ∀ milestone ∈ preparation answers command, milestone.isGeneration = false := by
  cases command with
  | document _ | validate _ _ | preview _ => exact fun _ member => absurd member List.not_mem_nil
  | generate _ _ =>
      intro milestone member
      obtain rfl := List.mem_singleton.mp member
      rfl
  | walk _ _ _ =>
      intro milestone member
      rcases List.mem_append.mp member with inStages | isRendering
      · exact answers.withBranch.isGeneration_stages milestone inStages
      · obtain rfl := List.mem_singleton.mp isRendering
        rfl

/-- A command that does not generate has no generation on its way. -/
theorem isGeneration_of_not_generates {command : Command} (generates : generates? command = none)
    (caller : Caller) (answers : Answers) :
    ∀ milestone ∈ itinerary caller answers command, milestone.isGeneration = false := by
  cases command with
  | document _ => exact fun _ member => absurd member List.not_mem_nil
  | validate _ _ | preview _ =>
      intro milestone member
      obtain rfl := List.mem_singleton.mp member
      rfl
  | generate _ _ => cases generates
  | walk source pullRequest dryRun =>
      cases dryRun with
      | false => cases generates
      | true => exact isGeneration_preparation answers (.walk source pullRequest true)

/-- A command that has got past everything before a generation has answers that can be
submitted. -/
theorem submittable_of_prepared {service : Service} {answers : Answers} {command : Command}
    {made : List Call} (generates : (generates? command).isSome = true)
    (passed : Milestone.travel service [] (preparation answers command) = (made, true)) :
    (submitted answers command).submittable = .ok () := by
  have isMet := Milestone.isMet_of_reached passed
  have isOk : (submitted answers command).submittable.isOk = true := by
    cases command with
    | document _ | validate _ _ | preview _ => cases generates
    | generate _ _ => exact isMet _ List.mem_cons_self
    | walk _ _ _ =>
        exact isMet _ (List.mem_append_left _ answers.withBranch.submittable_mem_stages)
  cases result : (submitted answers command).submittable with
  | ok _ => rfl
  | error error =>
      rw [result] at isOk
      cases isOk

end Command

/-- Whatever is made to the end of a way was laid out there. -/
theorem Milestone.calls_of_passed {service : Service} {milestones : List Milestone}
    {made : List Call} (passed : travel service [] milestones = (made, true)) :
    made = calls milestones ∧ ∀ earlier call later, made = earlier ++ call :: later →
      service.affirms earlier call = true := by
  obtain ⟨all, isAll, course⟩ := course_travel service [] milestones
  rw [passed] at isAll course
  obtain rfl : made = all := isAll
  exact ⟨course.whole rfl, fun earlier call later isSplit =>
    course.affirmed earlier call later isSplit (.inr rfl)⟩

/-- An entry of a kind that all but the last entry of a list lack is the last one. -/
theorem eq_of_append_last {α : Type} {kind : α → Bool} {front earlier later : List α}
    {last entry : α} (lacking : ∀ other ∈ front, kind other = false) (isOfKind : kind entry = true)
    (isSplit : front ++ [last] = earlier ++ entry :: later) :
    front = earlier ∧ last = entry ∧ later = [] := by
  rcases List.eq_nil_or_concat later with rfl | ⟨between, final, rfl⟩
  · obtain ⟨rfl, isLast⟩ := List.append_inj' isSplit rfl
    exact ⟨rfl, List.singleton_inj.mp isLast, rfl⟩
  · exfalso
    rw [List.concat_eq_append, ← List.cons_append, ← List.append_assoc] at isSplit
    obtain ⟨rfl, _⟩ := List.append_inj' isSplit rfl
    have lacks := lacking entry (List.mem_append_right _ List.mem_cons_self)
    rw [isOfKind] at lacks
    cases lacks

/-- On a way on which everything before a generation is passed, it is the last thing. -/
theorem Command.itinerary_cases {caller other : Caller} {answers : Answers} {command : Command}
    {document : Document} {pullRequest : Bool} {first others : List Milestone}
    (isItinerary : itinerary caller answers command =
      first ++ .call (.generate document other pullRequest) :: others) :
    generates? command = some pullRequest ∧ first = preparation answers command ∧
      document = Document.ofAnswers (submitted answers command) ∧ other = caller ∧
      others = [] := by
  cases generates : generates? command with
  | none =>
      exfalso
      have lacking := isGeneration_of_not_generates generates caller answers
        (.call (.generate document other pullRequest))
      rw [isItinerary] at lacking
      exact nomatch lacking (List.mem_append_right _ List.mem_cons_self)
  | some _ =>
      rw [itinerary_of_generates caller answers generates] at isItinerary
      obtain ⟨rfl, isLast, rfl⟩ :=
        eq_of_append_last (isGeneration_preparation answers command) rfl isItinerary
      cases isLast
      exact ⟨rfl, rfl, rfl, rfl, rfl⟩

/-- A walk that has got past everything before the generation has had its document accepted and
rendered at last. -/
theorem Command.checked_of_prepared {service : Service} {answers : Answers}
    {source : CommandLine.AnswersSource} {pullRequest dryRun : Bool} {made : List Call}
    (passed : Milestone.travel service []
      (preparation answers (.walk source pullRequest dryRun)) = (made, true)) :
    let document := Document.ofAnswers answers.withBranch
    ∃ earlier,
      made = earlier ++ [.validate .all document KeyMap.empty, .convert document] ∧
      service.affirms earlier (.validate .all document KeyMap.empty) = true ∧
      service.affirms (earlier ++ [.validate .all document KeyMap.empty]) (.convert document) =
        true := by
  intro document
  obtain ⟨isMade, affirmed⟩ := Milestone.calls_of_passed passed
  obtain ⟨first, isStages⟩ := answers.withBranch.exists_stages_eq
  have isSplit : made = Milestone.calls first ++
      [.validate .all document KeyMap.empty, .convert document] := by
    rw [isMade, preparation, isStages, List.append_assoc]
    exact List.filterMap_append
  refine ⟨_, isSplit, affirmed _ _ _ isSplit, affirmed _ _ [] ?_⟩
  rw [isSplit, List.append_assoc]
  rfl

/-- What a generation of a pipeline goes with: it is the last call of a run and its only
generation, it shows the document of answers that can be submitted, for the caller and in the
manner that the command says; and in a walk the same document was accepted as a whole right
before it was rendered, which was right before the generation. -/
structure Concludes (service : Service) (invocation : Invocation) (answers : Answers)
    (before : List Call) (document : Document) (caller : Caller) (pullRequest : Bool)
    (after : List Call) : Prop where
  isLast : after = []
  isOnly : ∀ call ∈ before, call.isGeneration = false
  isCaller : caller = invocation.caller
  isCommanded : Command.generates? invocation.command = some pullRequest
  submittable : (Command.submitted answers invocation.command).submittable = .ok ()
  isDocument : document = Document.ofAnswers (Command.submitted answers invocation.command)
  checked : ∀ source pullRequest dryRun, invocation.command = .walk source pullRequest dryRun →
    ∃ earlier,
      before = earlier ++ [.validate .all document KeyMap.empty, .convert document] ∧
      service.affirms earlier (.validate .all document KeyMap.empty) = true ∧
      service.affirms (earlier ++ [.validate .all document KeyMap.empty]) (.convert document) =
        true

/-- A generation that a command makes with loaded answers concludes its run. -/
theorem Command.concludes_runOn {service : Service} {address : String} {caller other : Caller}
    {answers : Answers} {command : Command} {before after : List Call} {document : Document}
    {pullRequest : Bool}
    (isSplit : (runOn service command caller answers).asked =
      before ++ .generate document other pullRequest :: after) :
    Concludes service ⟨address, caller, command⟩ answers before document other pullRequest
      after := by
  obtain ⟨reached, travelled, _⟩ := runOn_travels service caller answers command
  obtain ⟨first, others, isItinerary, rfl, passed, behind⟩ :=
    Milestone.passed_of_made travelled isSplit
  obtain ⟨generates, rfl, rfl, rfl, rfl⟩ := itinerary_cases isItinerary
  refine ⟨List.prefix_nil.mp behind, ?_, rfl, generates, ?_, rfl, ?_⟩
  · intro call member
    obtain ⟨milestone, inPreparation, isCall⟩ := List.mem_filterMap.mp member
    have lacks := isGeneration_preparation answers command milestone inPreparation
    cases milestone with
    | condition _ => cases isCall
    | call asked =>
        cases isCall
        exact lacks
  · exact submittable_of_prepared (Option.isSome_of_mem generates) passed
  · rintro source pullRequest dryRun ⟨⟩
    exact checked_of_prepared passed

/-- Whatever a command does and the service answers, a run generates at most once and at last,
from answers that can be submitted; nothing is asked when the answers cannot be loaded, and a
command that is to generate succeeds only with a generation that did. -/
theorem generation_concludes_run (service : Service) (invocation : Invocation) (files : Files) :
    let result := Invocation.run service invocation files
    let source := Command.answers invocation.command
    match AnswersFile.load files source.file source.assignments with
    | .error error => result.asked = [] ∧ result.output = .error (.load error)
    | .ok answers =>
      (∀ before document caller pullRequest after,
        result.asked = before ++ .generate document caller pullRequest :: after →
          Concludes service invocation answers before document caller pullRequest after) ∧
      ∀ pullRequest, Command.generates? invocation.command = some pullRequest →
        result.output.isOk = true → ∃ before document,
          result.asked = before ++ [.generate document invocation.caller pullRequest] ∧
          service.affirms before (.generate document invocation.caller pullRequest) = true := by
  intro result source
  obtain ⟨address, caller, command⟩ := invocation
  cases loaded : AnswersFile.load files source.file source.assignments with
  | error error =>
      have isQuiet : result = .quiet (.error (.load error)) := by
        simp only [result, Invocation.run, source] at loaded ⊢
        rw [loaded]
      rw [isQuiet]
      exact ⟨rfl, rfl⟩
  | ok answers =>
      have isRun : result = Command.runOn service command caller answers := by
        simp only [result, Invocation.run, source] at loaded ⊢
        rw [loaded]
      rw [isRun]
      refine ⟨fun _ _ _ _ _ => Command.concludes_runOn, fun pullRequest generates succeeded => ?_⟩
      obtain ⟨reached, travelled, sameOutcome⟩ :=
        Command.runOn_travels service caller answers command
      rw [sameOutcome (Option.isSome_of_mem generates)] at succeeded
      subst succeeded
      obtain ⟨whole, affirmed⟩ := Milestone.calls_of_passed travelled
      have isSplit : (Command.runOn service command caller answers).asked =
          Milestone.calls (Command.preparation answers command) ++
            [.generate (Document.ofAnswers (Command.submitted answers command)) caller
              pullRequest] := by
        rw [whole, Command.itinerary_of_generates caller answers generates]
        exact List.filterMap_append
      exact ⟨_, _, isSplit, affirmed _ _ [] isSplit⟩

end Onboarding
