import Mathlib.Data.List.Induction
import Onboarding.Proofs.Session.Completion
import Onboarding.Proofs.Session.Itinerary

/-! # What is generated

A pipeline is generated for answers that meet what the last stage asks for: its check is made
for them, and nothing but another check lets them change. What the stages before ask for was
met when they were left. But an edit is accepted on every stage and followed by the check of
that stage alone; so an edit on a later stage may take away what an earlier stage was left
with. Nothing else does (`Onboarding.Session.generation_follows_checks`).

All this is about a steady service and a session in which nothing is done out of its place:
additions are made on the stage that they belong to, and a pipeline is generated on the last
stage when it is complete (`Onboarding.Session.isOrderly`).
-/

namespace Onboarding

/-- A steady service affirms the same whatever it was asked before. -/
theorem Service.IsSteady.affirms_eq {service : Service} (steady : service.IsSteady)
    (before : List Call) (call : Call) : service.affirms before call = service.affirms [] call := by
  cases call with
  | validate scope document extra => simp only [affirms, steady.validate before]
  | convert document => simp only [affirms, steady.convert before]
  | generate document caller pullRequest => simp only [affirms, steady.generate before]
  | lookup org repo => simp only [affirms, steady.lookup before]

/-- What a steady service affirmed once it affirms always. -/
theorem Service.AffirmedLatest.affirms {service : Service} {kind : Call → Bool}
    {asked : List Call} {call : Call} (latest : service.AffirmedLatest kind asked call)
    (steady : service.IsSteady) : service.affirms [] call = true := by
  obtain ⟨before, _, affirmed⟩ := latest
  rw [← steady.affirms_eq before call]
  exact affirmed

namespace Stage

/-- The place of a stage among all. -/
def position : Stage → Nat
  | repository => 0
  | build => 1
  | tests => 2
  | verify => 3

theorem position_inj {left right : Stage} (same : left.position = right.position) :
    left = right := by
  cases left <;> cases right <;> cases same <;> rfl

theorem position_next {stage next : Stage} (isNext : stage.next? = some next) :
    next.position = stage.position + 1 := by
  cases stage <;> cases isNext <;> rfl

theorem position_previous {stage previous : Stage} (isPrevious : stage.previous? = some previous) :
    stage.position = previous.position + 1 := by
  cases stage <;> cases isPrevious <;> rfl

end Stage

namespace Answers

/-- What a stage asks of the answers before it may be left, with a steady service. -/
def Meets (service : Service) (answers : Answers) : Stage → Prop
  | .repository => answers.isIdentified = true ∧
      service.affirms [] (Session.lookupCall answers) = true
  | .build => answers.build.isComplete = true
  | .tests => answers.tests ≠ []
  | .verify => answers.submittable = .ok () ∧
      service.affirms [] (Session.fullValidation answers) = true

variable {service : Service} {answers : Answers} {stage : Stage}

/-- Answers are identified if none of the three texts is blank. -/
theorem isIdentified_iff :
    answers.isIdentified = true ↔ Text.isBlank answers.org = false ∧
      Text.isBlank answers.repo = false ∧ Text.isBlank answers.branch = false := by
  unfold isIdentified missingIdentity?
  rw [Option.isNone_iff_eq_none, List.find?_eq_none]
  simp [IdentityField.all, identity]

/-- Answers that can be submitted are identified. -/
theorem isIdentified_of_submittable (submittable : answers.submittable = .ok ()) :
    answers.isIdentified = true := by
  unfold Answers.submittable at submittable
  unfold isIdentified
  cases missing : answers.missingIdentity? with
  | none => rfl
  | some field =>
      rw [missing] at submittable
      cases submittable

/-- The default branch is only for repositories that are not identified yet. -/
theorem withBranch_of_isIdentified (identified : answers.isIdentified = true) :
    answers.withBranch = answers := by
  obtain ⟨_, _, branch⟩ := isIdentified_iff.mp identified
  unfold withBranch
  rw [branch, Bool.false_and, Bool.false_and, if_neg Bool.false_ne_true]

/-- A default branch takes nothing away that a stage asks for. -/
theorem Meets.withBranch (meets : answers.Meets service stage) :
    answers.withBranch.Meets service stage := by
  cases stage with
  | repository =>
      rw [withBranch_of_isIdentified meets.1]
      exact meets
  | build =>
      rw [Meets, withBranch_build]
      exact meets
  | tests =>
      rw [Meets, withBranch_tests]
      exact meets
  | verify =>
      rw [withBranch_of_isIdentified (isIdentified_of_submittable meets.1)]
      exact meets

/-- A change that keeps the criteria takes nothing away that a stage before the last asks for. -/
theorem Meets.replaced {after : Answers} (meets : answers.Meets service stage)
    (notVerify : stage ≠ .verify) (kept : Session.KeepsCriteria answers after) :
    after.Meets service stage := by
  cases stage with
  | repository => exact ⟨kept.identified.trans meets.1, kept.lookup ▸ meets.2⟩
  | build => exact kept.built.trans meets
  | tests => exact kept.tested meets
  | verify => exact absurd rfl notVerify

end Answers

namespace Operation

/-- Whether an operation makes an edit of its own accord. -/
def isEdit : Operation → Bool
  | .dispatch _ | .set _ _ => true
  | _ => false

/-- Whether an operation is in its place: an addition on the stage that it belongs to, and a
generation on the last stage, which is complete. -/
def isInPlace (session : Session) : Operation → Bool
  | .addImage _ | .addSubstitution _ => session.stage == .build
  | .addTest _ | .updateTest _ _ => session.stage == .tests
  | .generate _ => session.stage == .verify && session.record.complete
  | _ => true

/-- An operation in its place is on a stage that it belongs to. -/
theorem belongsTo_of_isInPlace {session : Session} {operation : Operation}
    (inPlace : operation.isInPlace session = true) :
    operation.belongsTo session.stage = true := by
  cases operation with
  | addImage _ | addSubstitution _ | addTest _ | updateTest _ _ => exact inPlace
  | generate pullRequest => exact ((Bool.and_eq_true _ _).mp inPlace).1
  | _ => rfl

end Operation

namespace Session

/-- Whether some operations are each in their place. -/
def isOrderly (service : Service) (session : Session) : List Operation → Bool
  | [] => true
  | operation :: operations =>
    operation.isInPlace session && (session.perform service operation).1.isOrderly service operations

/-- No edit among some operations takes away from the answers what a stage asks for. -/
def Spares (service : Service) (stage : Stage) (session : Session) : List Operation → Prop
  | [] => True
  | operation :: operations =>
    (operation.isEdit = true → session.answers.Meets service stage →
      (session.perform service operation).1.answers.Meets service stage) ∧
    (session.perform service operation).1.Spares service stage operations

variable {service : Service} {session : Session}

/-! ## Where an operation leads -/

/-- A run goes on where the one before it has come to. -/
theorem run_append (service : Service) (session : Session) (first second : List Operation) :
    session.run service (first ++ second) = (session.run service first).run service second := by
  induction first generalizing session with
  | nil => rfl
  | cons operation first ih => exact ih _

/-- A run is orderly if its parts are. -/
theorem isOrderly_append {first second : List Operation} :
    session.isOrderly service (first ++ second) =
      (session.isOrderly service first &&
        (session.run service first).isOrderly service second) := by
  induction first generalizing session with
  | nil => rfl
  | cons operation first ih =>
      simp only [List.cons_append, isOrderly, run, ih, Bool.and_assoc]

/-- Where an operation takes the stage and the answers of a session. -/
inductive Movement (service : Service) (session : Session) : Operation → Session → Prop
  | stays {operation : Operation} {after : Session} (stage : after.stage = session.stage)
      (answers : after.answers = session.answers ∨ after.answers = session.answers.withBranch) :
      Movement service session operation after
  | leaves {after : Session} (complete : session.record.complete = true)
      (isNext : session.stage.next? = some after.stage)
      (answers : after.answers = session.answers ∨ after.answers = session.answers.withBranch) :
      Movement service session .next after
  | returns {after : Session} (isPrevious : session.stage.previous? = some after.stage)
      (answers : after.answers = session.answers ∨ after.answers = session.answers.withBranch) :
      Movement service session .back after
  | edits {operation : Operation} {after : Session} (isEdit : operation.isEdit = true)
      (stage : after.stage = session.stage) : Movement service session operation after
  | adds {operation : Operation} {after : Session} {addition : Addition}
      (isAddition : operation.addition? session.answers = some addition)
      (applied : addition.edit.apply session.answers = .ok after.answers)
      (stage : after.stage = session.stage) : Movement service session operation after

/-- An edit that is made stays on the stage and changes the answers as it is meant to. -/
theorem movement_dispatch {operation : Operation} (isEdit : operation.isEdit = true) {edit : Edit}
    {after : Session} (dispatched : session.dispatch service edit = .ok after) :
    Movement service session operation after := by
  rw [dispatch_eq] at dispatched
  obtain ⟨answers, _, rfl⟩ := map_eq_ok_iff.mp dispatched
  exact .edits isEdit (check_stage service { session with answers })

/-- An assignment that is made moves the session as its edit does. -/
theorem movement_set {path : String} {text : Option String} {after : Session}
    (assigned : session.set service path text = .ok after) :
    Movement service session (.set path text) after := by
  rw [set_eq_of_assignment] at assigned
  split at assigned
  · cases assigned
  · cases assigned
    exact .stays rfl (.inl rfl)
  · exact movement_dispatch rfl assigned

/-- A step to the next stage moves the session there, from a complete stage. -/
theorem movement_next {after : Session} (advanced : session.next service = .ok after) :
    Movement service session .next after := by
  have complete := complete_of_next advanced
  rw [next_eq, if_pos complete] at advanced
  split at advanced
  · rename_i stage isNext
    cases advanced
    refine .leaves complete ?_ (enter_answers ..)
    rw [enter_stage]
    exact isNext
  · cases advanced
    exact .stays rfl (.inl rfl)

/-- A step back moves the session to the stage before. -/
theorem movement_back : Movement service session .back (session.back service) := by
  unfold back
  split
  · rename_i stage isPrevious
    refine .returns ?_ (enter_answers ..)
    rw [enter_stage]
    exact isPrevious
  · exact .stays rfl (.inl rfl)

/-- An addition stays on its stage and takes nothing away. -/
theorem movement_addition {operation : Operation} (addition : Addition)
    (isAddition : operation.addition? session.answers = some addition) :
    Movement service session operation (session.attemptAddition service addition).1 := by
  rcases session.attemptAddition_cases service addition with
    ⟨_, attempted⟩ | ⟨_, _, attempted⟩ | ⟨candidate, _, _, applied, attempted⟩
  · rw [attempted]
    exact .stays rfl (.inl rfl)
  · rw [attempted]
    exact .stays rfl (.inl rfl)
  · rw [attempted]
    refine .adds isAddition ?_ ?_
    · rw [settle_answers]
      exact applied
    · rw [settle_stage]
      rfl

/-- Every operation moves the session in one of these ways. -/
theorem movement_perform (service : Service) (session : Session) (operation : Operation) :
    Movement service session operation (session.perform service operation).1 := by
  cases operation with
  | dispatch edit =>
      exact attempt_keeps (isAtomic_dispatch service edit) (.stays rfl (.inl rfl))
        fun _ => movement_dispatch rfl
  | set path text =>
      exact attempt_keeps (isAtomic_set service path text) (.stays rfl (.inl rfl))
        fun _ => movement_set
  | next =>
      exact attempt_keeps (isAtomic_next service) (.stays rfl (.inl rfl)) fun _ => movement_next
  | back => exact movement_back
  | check => exact .stays (check_stage service session) (check_answers service session)
  | addImage image => exact movement_addition (.ofImage image) rfl
  | addSubstitution substitution => exact movement_addition (.ofSubstitution substitution) rfl
  | addTest test => exact movement_addition (.ofTest test) rfl
  | updateTest name test =>
      change Movement service session _ (session.updateTest service name test).1
      cases found : session.answers.findTest? name with
      | none =>
          rw [updateTest_of_absent found]
          exact .stays rfl (.inl rfl)
      | some index =>
          rw [updateTest_of_found found]
          refine movement_addition (.ofReplacement index test) ?_
          rw [Operation.addition?, found, Option.map_some]
  | preview =>
      change Movement service session _ (session.preview service).1
      rcases session.preview_cases service with ⟨_, _, previewed⟩ | ⟨_, previewed⟩
      · rw [previewed]
        exact .stays rfl (.inl rfl)
      · rw [previewed]
        exact .stays rfl (.inl rfl)
  | generate pullRequest =>
      change Movement service session _ (session.generate service pullRequest).1
      rcases session.generate_cases service pullRequest with
        ⟨_, _, generated⟩ | ⟨_, ⟨_, _, generated⟩ | ⟨_, generated⟩⟩
      · rw [generated]
        exact .stays rfl (.inl rfl)
      · rw [generated]
        exact .stays rfl (.inl rfl)
      · rw [generated]
        exact .stays rfl (.inl rfl)

/-! ## What is kept -/

/-- Only an edit can take away what a stage before the last asks for. -/
theorem meets_perform {operation : Operation} {stage : Stage} (notEdit : operation.isEdit = false)
    (notVerify : stage ≠ .verify) (meets : session.answers.Meets service stage) :
    (session.perform service operation).1.answers.Meets service stage := by
  have kept {answers : Answers}
      (same : answers = session.answers ∨ answers = session.answers.withBranch) :
      answers.Meets service stage := by
    rcases same with rfl | rfl
    · exact meets
    · exact meets.withBranch
  cases session.movement_perform service operation with
  | stays _ answers => exact kept answers
  | leaves _ _ answers => exact kept answers
  | returns _ answers => exact kept answers
  | edits isEdit _ =>
      rw [notEdit] at isEdit
      cases isEdit
  | adds isAddition applied _ =>
      exact meets.replaced notVerify (keepsCriteria_of_addition isAddition applied)

/-- What a stage before the last asks for is met after a run that spares it. -/
theorem meets_run {stage : Stage} (notVerify : stage ≠ .verify) {operations : List Operation}
    (meets : session.answers.Meets service stage)
    (spared : session.Spares service stage operations) :
    (session.run service operations).answers.Meets service stage := by
  induction operations generalizing session with
  | nil => exact meets
  | cons operation operations ih =>
      obtain ⟨first, others⟩ := spared
      refine ih ?_ others
      cases isEdit : operation.isEdit with
      | true => exact first isEdit meets
      | false => exact meets_perform isEdit notVerify meets

/-- Every stage before the one that a session has come to was left by a step to the next
stage. -/
theorem exists_left (service : Service) (opened : Session) (onFirst : opened.stage = .repository)
    (operations : List Operation) {stage : Stage}
    (earlier : stage.position < (opened.run service operations).stage.position) :
    ∃ before after, operations = before ++ .next :: after ∧
      (opened.run service before).stage = stage ∧
      (opened.run service before).record.complete = true := by
  -- on the last operation: it leaves the stage, or the stage was left before it
  induction operations using List.reverseRecOn with
  | nil =>
      rw [run, onFirst] at earlier
      cases earlier
  | append_singleton operations operation ih =>
      let session := opened.run service operations
      have isRun : opened.run service (operations ++ [operation]) =
          (session.perform service operation).1 := run_append service opened operations [operation]
      have leftBefore (still : stage.position < session.stage.position) :
          ∃ before after, operations ++ [operation] = before ++ .next :: after ∧
            (opened.run service before).stage = stage ∧
            (opened.run service before).record.complete = true := by
        obtain ⟨before, after, rfl, left⟩ := ih still
        exact ⟨before, after ++ [operation], by simp, left⟩
      rw [isRun] at earlier
      cases session.movement_perform service operation with
      | stays isStage _ => exact leftBefore (isStage ▸ earlier)
      | edits _ isStage => exact leftBefore (isStage ▸ earlier)
      | adds _ _ isStage => exact leftBefore (isStage ▸ earlier)
      | returns isPrevious _ =>
          have position := Stage.position_previous isPrevious
          exact leftBefore (by omega)
      | leaves complete isNext _ =>
          have position := Stage.position_next isNext
          by_cases still : stage.position < session.stage.position
          · exact leftBefore still
          · have same : session.stage = stage := Stage.position_inj (by omega)
            exact ⟨operations, [], rfl, same, complete⟩

/-! ## What is met -/

/-- With a steady service, a complete stage meets its criterion now. -/
theorem Truthful.meets (truthful : session.Truthful service) (steady : service.IsSteady)
    (complete : session.record.complete = true) :
    session.answers.Meets service session.stage := by
  have meets := truthful complete
  cases isStage : session.stage with
  | repository =>
      rw [isStage] at meets
      exact ⟨meets.1, meets.2.affirms steady⟩
  | build =>
      rw [isStage] at meets
      exact meets
  | tests =>
      rw [isStage] at meets
      exact meets
  | verify =>
      rw [isStage] at meets
      exact ⟨meets.1, meets.2.affirms steady⟩

/-- In its place an operation leaves a record that speaks for the criterion: what is added is
followed by the check of the stage, and what is generated had met it. -/
theorem truthful_of_isInPlace {operation : Operation} (truthful : session.Truthful service)
    (inPlace : operation.isInPlace session = true) :
    (session.perform service operation).1.Truthful service := by
  rcases session.perform_cases service operation with
    step | ⟨addition, isAddition, performed⟩ | ⟨pullRequest, rfl⟩
  · exact truthful_plainStep truthful step
  · rw [performed]
    refine attemptAddition_keeps (fun _ => truthful) (fun _ => truthful_of_incomplete)
      fun made => ?_
    have atHome : session.stage = addition.home := by
      have belongs := Operation.belongsTo_of_isInPlace inPlace
      rw [Operation.belongsTo_of_addition isAddition] at belongs
      exact eq_of_beq belongs
    obtain ⟨unchecked, checked⟩ := exists_check_of_addition atHome made
    exact checked ▸ truthful_check unchecked
  · obtain ⟨_, complete⟩ := (Bool.and_eq_true _ _).mp inPlace
    change (session.generate service pullRequest).1.Truthful service
    rcases session.generate_cases service pullRequest with
      ⟨_, _, generated⟩ | ⟨_, ⟨_, _, generated⟩ | ⟨_, generated⟩⟩
    · rw [generated]
      exact truthful_of_incomplete rfl
    · rw [generated]
      exact fun _ => (truthful complete).asking rfl fun _ => rfl
    · rw [generated]
      exact truthful_of_incomplete rfl

/-- An orderly run leaves a record that speaks for the criterion. -/
theorem truthful_of_isOrderly {operations : List Operation} (truthful : session.Truthful service)
    (orderly : session.isOrderly service operations = true) :
    (session.run service operations).Truthful service := by
  induction operations generalizing session with
  | nil => exact truthful
  | cons operation operations ih =>
      obtain ⟨inPlace, others⟩ := (Bool.and_eq_true _ _).mp orderly
      exact ih (truthful_of_isInPlace truthful inPlace) others

/-- A generation in its place sends its request, and the answers it is sent for meet what the
last stage asks for. Every other stage was left complete, with its criterion met; and unless
an edit made since it was left has taken it away, the criterion is met still. -/
theorem generation_follows_checks (service : Service) (steady : service.IsSteady)
    (answers : Answers) (caller : Caller) (operations : List Operation) (pullRequest : Bool)
    (orderly : (start service answers caller).isOrderly service
      (operations ++ [.generate pullRequest]) = true) :
    let opened := start service answers caller
    let session := opened.run service operations
    (session.generate service pullRequest).1.asked =
      session.asked ++ [.generate session.document session.caller pullRequest] ∧
    session.answers.isIdentified = true ∧
    session.answers.Meets service .verify ∧
    ∀ stage, stage ≠ .verify →
      (∃ before after, operations = before ++ .next :: after ∧
        (opened.run service before).stage = stage ∧
        (opened.run service before).record.complete = true) ∧
      ∀ before after, operations = before ++ .next :: after →
        let left := opened.run service before
        left.stage = stage → left.record.complete = true →
          left.answers.Meets service stage ∧
          ((left.perform service .next).1.Spares service stage after →
            session.answers.Meets service stage) := by
  intro opened session
  have truthfulFrom {first : List Operation} (inOrder : opened.isOrderly service first = true) :
      (opened.run service first).Truthful service :=
    truthful_of_isOrderly (truthful_enter _ _) inOrder
  rw [isOrderly_append, Bool.and_eq_true, isOrderly, Bool.and_eq_true] at orderly
  obtain ⟨inOrder, inPlace, _⟩ := orderly
  obtain ⟨onLast, complete⟩ := (Bool.and_eq_true _ _).mp inPlace
  have onVerify : session.stage = .verify := eq_of_beq onLast
  have verified : session.answers.Meets service .verify :=
    onVerify ▸ (truthfulFrom inOrder).meets steady complete
  refine ⟨?_, Answers.isIdentified_of_submittable verified.1, verified, fun stage notVerify => ?_⟩
  · rcases session.generate_cases service pullRequest with
      ⟨_, refused, _⟩ | ⟨_, ⟨_, _, generated⟩ | ⟨_, generated⟩⟩
    · rw [verified.1] at refused
      cases refused
    · rw [generated]
      rfl
    · rw [generated]
      rfl
  · have earlier : stage.position < session.stage.position := by
      rw [onVerify]
      cases stage with
      | verify => exact absurd rfl notVerify
      | _ => decide
    refine ⟨exists_left service opened (enter_stage ..) operations earlier, ?_⟩
    intro before after isSplit left onStage leftComplete
    have inOrderBefore : opened.isOrderly service before = true := by
      rw [isSplit, isOrderly_append] at inOrder
      exact ((Bool.and_eq_true _ _).mp inOrder).1
    have isRun : session = (left.perform service .next).1.run service after := by
      change opened.run service operations = _
      rw [isSplit, run_append]
      rfl
    have met : left.answers.Meets service stage :=
      onStage ▸ (truthfulFrom inOrderBefore).meets steady leftComplete
    refine ⟨met, fun spared => ?_⟩
    rw [isRun]
    exact meets_run notVerify (meets_perform rfl notVerify met) spared

/-- An edit on the last stage that leaves the build plan complete spares the build stage. -/
theorem generation_follows_checks_of_sample :
    let service := Service.agreeable
    let before : List Operation := [.next, .addImage ⟨"j", "n", "t"⟩]
    let after : List Operation :=
      [.addTest { TestPlan.blank with name := "v", commands := some "m" }, .next,
        .set "buildSettings.goVersion" (some "2")]
    let opened := start service .sample .unknown
    let session := opened.run service (before ++ .next :: after)
    opened.isOrderly service ((before ++ .next :: after) ++ [.generate true]) = true ∧
      session.answers.Meets service .build ∧ session.answers.Meets service .verify := by
  intro service before after opened session
  have orderly : opened.isOrderly service ((before ++ .next :: after) ++ [.generate true]) = true :=
    by decide +kernel
  obtain ⟨_, _, verified, others⟩ :=
    generation_follows_checks service Service.isSteady_agreeable .sample .unknown _ true orderly
  obtain ⟨_, spared⟩ := (others .build (by decide)).2 before after rfl (by decide +kernel)
    (by decide +kernel)
  refine ⟨orderly, spared ⟨?_, ?_, ?_, trivial⟩, verified⟩
  · exact fun isEdit => absurd isEdit Bool.false_ne_true
  · exact fun isEdit => absurd isEdit Bool.false_ne_true
  · intro _ _
    change BuildPlan.isComplete _ = true
    decide +kernel

/-- On the last stage the repository is given another name, for which there is a configuration,
the Go version is emptied and the only test is removed. The stage is complete all the same, and
the pipeline is generated. -/
theorem generation_without_checks :
    let service := Service.knowing "x"
    let operations : List Operation :=
      [.next, .next, .next, .dispatch (.identity .org "x"), .dispatch (.buildText .goVersion ""),
        .dispatch (.removeTest 0)]
    let opened := start service .sample .unknown
    let session := opened.run service operations
    service.IsSteady ∧ opened.isOrderly service (operations ++ [.generate false]) = true ∧
      (session.generate service false).2.isSome = true ∧
      ¬session.answers.Meets service .repository ∧ ¬session.answers.Meets service .build ∧
      ¬session.answers.Meets service .tests := by
  intro service operations opened session
  refine ⟨Service.isSteady_knowing "x", by decide +kernel, by decide +kernel, ?_, ?_, ?_⟩
  · intro meets
    exact absurd meets.2 (by decide +kernel)
  · intro complete
    change BuildPlan.isComplete _ = true at complete
    exact absurd complete (by decide +kernel)
  · intro tested
    exact tested (by decide +kernel)

end Session

end Onboarding
