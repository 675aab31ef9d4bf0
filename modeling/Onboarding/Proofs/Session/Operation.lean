import Onboarding.Proofs.Session.Answering
import Onboarding.Proofs.Session.Changing

/-! # What a session is put through

A session is changed by eleven kinds of operations, in any order
(`Onboarding.Session.run`). A refused operation may leave word of the refusal on the
record, but it is an operation as well. What every operation keeps, a run keeps
(`Onboarding.Session.run_keeps`).

What an operation can do is said once, by cases (`Onboarding.Session.perform_cases`): the
four operations that add something attempt an addition each, which differ in nothing but
their data.
-/

namespace Onboarding

/-- What is done in a session. -/
inductive Operation where
  | dispatch (edit : Edit)
  | set (path : String) (text : Option String)
  | next
  | back
  | check
  | addImage (image : ImageTag)
  | addSubstitution (substitution : Substitution)
  | addTest (test : TestPlan)
  | updateTest (name : String) (test : TestPlan)
  | preview
  | generate (pullRequest : Bool)
  deriving DecidableEq, Repr

/-- Whether an operation only walks through the stages. -/
def Operation.isWalking : Operation → Bool
  | .next | .back | .check => true
  | _ => false

namespace Session

variable (service : Service)

/-- What an attempt to change a session leaves behind, and whether it succeeded. -/
def attempt {ε : Type} (session : Session) (change : InPlace ε Session Unit) : Session × Bool :=
  match change session with
  | .ok () after => (after, true)
  | .error _ left => (left, false)

/-- The session after an operation, and whether the operation succeeded. -/
def perform (session : Session) : Operation → Session × Bool
  | .dispatch edit => session.attempt (dispatchInPlace service edit)
  | .set path text => session.attempt (setInPlace service path text)
  | .next => session.attempt (nextInPlace service)
  | .back => (session.back service, true)
  | .check => (session.check service, true)
  | .addImage image => session.addImage service image
  | .addSubstitution substitution => session.addSubstitution service substitution
  | .addTest test => session.addTest service test
  | .updateTest name test => session.updateTest service name test
  | .preview =>
    let (after, rendered) := session.preview service
    (after, rendered.isSome)
  | .generate pullRequest =>
    let (after, identifier) := session.generate service pullRequest
    (after, identifier.isSome)

/-- The session after some operations, of which those that fail are followed by the others. -/
def run (session : Session) : List Operation → Session
  | [] => session
  | operation :: operations => run (session.perform service operation).1 operations

variable {service}

/-- What every operation keeps, a run keeps. -/
theorem run_keeps {kept : Session → Prop}
    (step : ∀ session operation, kept session → kept (session.perform service operation).1)
    {session : Session} (holds : kept session) (operations : List Operation) :
    kept (session.run service operations) := by
  induction operations generalizing session with
  | nil => exact holds
  | cons operation operations ih => exact ih (step session operation holds)

/-- What every operation of some kinds keeps, a run of such operations keeps. -/
theorem run_keeps_among {kept : Session → Prop} {among : Operation → Prop}
    (step : ∀ session operation, among operation → kept session →
      kept (session.perform service operation).1)
    {session : Session} (holds : kept session) {operations : List Operation}
    (isAmong : ∀ operation ∈ operations, among operation) :
    kept (session.run service operations) := by
  induction operations generalizing session with
  | nil => exact holds
  | cons operation operations ih =>
      have first := step session operation (isAmong operation List.mem_cons_self) holds
      exact ih first fun other member => isAmong other (List.mem_cons_of_mem _ member)

section Attempts

variable {ε : Type} {change : InPlace ε Session Unit} {session : Session}

/-- An attempt leaves a session as it was, or leads to what comes of a copy. -/
theorem attempt_cases (atomic : change.IsAtomic) (session : Session) :
    (∃ after, change.apply session = .ok after ∧ session.attempt change = (after, true)) ∨
      ∃ reason, change.apply session = .error reason ∧
        session.attempt change = (session, false) := by
  rw [attempt, atomic.eq_of_apply]
  cases change.apply session with
  | ok after => exact .inl ⟨after, rfl, rfl⟩
  | error reason => exact .inr ⟨reason, rfl, rfl⟩

/-- What holds of a session and of all that an attempt can lead to holds after the attempt. -/
theorem attempt_keeps {kept : Session → Prop} (atomic : change.IsAtomic) (holds : kept session)
    (made : ∀ after, change.apply session = .ok after → kept after) :
    kept (session.attempt change).1 := by
  rcases attempt_cases atomic session with ⟨after, applied, attempted⟩ | ⟨_, _, attempted⟩
  · rw [attempted]
    exact made after applied
  · rw [attempted]
    exact holds

end Attempts

end Session

/-! ## What an operation can do -/

/-- An addition: an edit that the service has to accept in a scope, to the tests or to the
build plan. -/
structure Addition where
  edit : Edit
  scope : Scope
  extra : Extra
  toTests : Bool

namespace Addition

/-- The stage that an addition belongs to. -/
def home (addition : Addition) : Stage := if addition.toTests then .tests else .build

/-- The check that follows an addition that is made. -/
def check (addition : Addition) (session : Session) : Session :=
  if addition.toTests then session.checkTests else session.checkBuild

/-- The addition of a base image. -/
def ofImage (image : ImageTag) : Addition := ⟨.addImage image, .baseImages, KeyMap.empty, false⟩

/-- The addition of a substitution, which is shown to the service besides. -/
def ofSubstitution (substitution : Substitution) : Addition :=
  ⟨.addSubstitution substitution, .operatorSubstitution, Session.substitutionData substitution,
    false⟩

/-- The addition of a test. -/
def ofTest (test : TestPlan) : Addition := ⟨.addTest test, .tests, KeyMap.empty, true⟩

/-- The replacement of a test is checked as an addition is. -/
def ofReplacement (index : Nat) (test : TestPlan) : Addition :=
  ⟨.replaceTest index test, .tests, KeyMap.empty, true⟩

end Addition

/-- The addition that an operation attempts. -/
def Operation.addition? (answers : Answers) : Operation → Option Addition
  | .addImage image => some (.ofImage image)
  | .addSubstitution substitution => some (.ofSubstitution substitution)
  | .addTest test => some (.ofTest test)
  | .updateTest name test => (answers.findTest? name).map (.ofReplacement · test)
  | _ => none

namespace Session

/-- An addition has to be accepted by the service, and the check of its own stage follows,
on whatever stage the session is. -/
def attemptAddition (service : Service) (session : Session) (addition : Addition) :
    Session × Bool :=
  followedBy addition.check
    (session.commit service addition.edit addition.scope addition.extra)

/-- What becomes of a session in an operation that is neither an addition nor a
generation. -/
inductive PlainStep (service : Service) (session : Session) : Session → Prop
  | still : PlainStep service session session
  | rejected (message : String) : PlainStep service session (session.reject message)
  | checked : PlainStep service session (session.check service)
  | entered (stage : Stage) : PlainStep service session (session.enter service stage)
  | edited {edit : Edit} {answers : Answers} (applied : edit.apply session.answers = .ok answers) :
      PlainStep service session ({ session with answers }.check service)
  | previewed : PlainStep service session (session.preview service).1

/-- What becomes of a session in a step through the stages. -/
inductive WalkStep (service : Service) (session : Session) : Session → Prop
  | still : WalkStep service session session
  | checked : WalkStep service session (session.check service)
  | entered (stage : Stage) : WalkStep service session (session.enter service stage)

variable {service : Service} {session : Session}

/-- A test that is not there is not replaced. -/
theorem updateTest_of_absent {name : String} (absent : session.answers.findTest? name = none)
    (test : TestPlan) :
    session.updateTest service name test = (session.reject ("No test named " ++ name), false) := by
  simp only [updateTest, absent]

/-- A test that is there is replaced in its place. -/
theorem updateTest_of_found {name : String} {index : Nat}
    (found : session.answers.findTest? name = some index) (test : TestPlan) :
    session.updateTest service name test =
      session.attemptAddition service (.ofReplacement index test) := by
  simp only [updateTest, found]
  rfl

/-- An addition is refused before the service is asked, or rejected by the service, or made;
then the check after it settles the stage, whichever it is. -/
theorem attemptAddition_cases (service : Service) (session : Session) (addition : Addition) :
    (∃ message, session.attemptAddition service addition = (session.reject message, false)) ∨
    (∃ candidate messages,
      let call := Call.validate addition.scope (Document.ofAnswers candidate) addition.extra
      session.attemptAddition service addition = ((session.asking call).fail messages, false)) ∨
    ∃ candidate affirmed messages, addition.edit.apply session.answers = .ok candidate ∧
      let call := Call.validate addition.scope (Document.ofAnswers candidate) addition.extra
      let made := { session.asking call with
        answers := candidate
        record := session.record.silence }
      session.attemptAddition service addition = (made.settle affirmed messages, true) := by
  unfold attemptAddition
  rcases session.commit_cases service addition.edit addition.scope addition.extra with
    ⟨error, _, committed⟩ | ⟨candidate, applied, ⟨_, committed⟩ | ⟨_, messages, committed⟩⟩
  · rw [committed]
    exact .inl ⟨error.message, rfl⟩
  · rw [committed, followedBy]
    unfold Addition.check
    split
    · rw [checkTests_eq]
      exact .inr (.inr ⟨candidate, _, _, applied, rfl⟩)
    · rw [checkBuild_eq]
      exact .inr (.inr ⟨candidate, _, _, applied, rfl⟩)
  · rw [committed]
    exact .inr (.inl ⟨_, messages, rfl⟩)

theorem plainStep_dispatch {edit : Edit} {after : Session}
    (dispatched : session.dispatch service edit = .ok after) : PlainStep service session after := by
  rw [dispatch_eq] at dispatched
  cases applied : edit.apply session.answers with
  | error _ =>
      rw [applied] at dispatched
      cases dispatched
  | ok answers =>
      rw [applied] at dispatched
      cases dispatched
      exact .edited applied

theorem plainStep_set {path : String} {text : Option String} {after : Session}
    (assigned : session.set service path text = .ok after) : PlainStep service session after := by
  rw [set_eq_of_assignment] at assigned
  split at assigned
  · cases assigned
  · cases assigned
    exact .still
  · exact plainStep_dispatch assigned

theorem walkStep_next {after : Session} (advanced : session.next service = .ok after) :
    WalkStep service session after := by
  rw [next_eq] at advanced
  split at advanced
  · split at advanced
    · cases advanced
      exact .entered _
    · cases advanced
      exact .still
  · cases advanced

theorem walkStep_back : WalkStep service session (session.back service) := by
  unfold back
  split
  · exact .entered _
  · exact .still

/-- An operation that only walks through the stages enters or checks one, if it does anything. -/
theorem walkStep_perform {operation : Operation} (isWalking : operation.isWalking = true) :
    WalkStep service session (session.perform service operation).1 := by
  cases operation with
  | next => exact attempt_keeps (isAtomic_next service) .still fun _ => walkStep_next
  | back => exact walkStep_back
  | check => exact .checked
  | _ => cases isWalking

/-- What holds of a session, and of it with a stage checked or entered, holds after a step through
the stages. -/
theorem walk_keeps (kept : Session → Prop) {operation : Operation}
    (isWalking : operation.isWalking = true) (holds : kept session)
    (checked : kept (session.check service))
    (entered : ∀ stage, kept (session.enter service stage)) :
    kept (session.perform service operation).1 := by
  have step : WalkStep service session (session.perform service operation).1 :=
    walkStep_perform isWalking
  generalize (session.perform service operation).1 = after at step ⊢
  cases step with
  | still => exact holds
  | checked => exact checked
  | entered stage => exact entered stage

/-- Steps of a walk are plain. -/
theorem WalkStep.plain {after : Session} (step : WalkStep service session after) :
    PlainStep service session after := by
  cases step with
  | still => exact .still
  | checked => exact .checked
  | entered stage => exact .entered stage

theorem plainStep_next {after : Session} (advanced : session.next service = .ok after) :
    PlainStep service session after :=
  (walkStep_next advanced).plain

/-- What every check brings about, and a rejection or the call of a preview keeps, is kept by a
plain step. -/
theorem PlainStep.keeps {kept : Session → Prop} {after : Session}
    (step : PlainStep service session after)
    (checked : ∀ unchecked : Session, kept (unchecked.check service))
    (rejected : ∀ before message, kept before → kept (before.reject message))
    (shown : kept session → kept (session.asking (.convert session.document)))
    (holds : kept session) : kept after := by
  cases step with
  | still => exact holds
  | rejected message => exact rejected session message holds
  | checked => exact checked session
  | entered stage => exact checked { session with stage, record := .fresh stage }
  | edited applied => exact checked _
  | previewed =>
      rcases session.preview_cases service with ⟨_, _, previewed⟩ | ⟨_, previewed⟩
      · rw [previewed]
        exact shown holds
      · rw [previewed]
        exact rejected _ _ (shown holds)

/-- An operation is an addition, a generation, or one of the plain steps. -/
theorem perform_cases (service : Service) (session : Session) (operation : Operation) :
    PlainStep service session (session.perform service operation).1 ∨
    (∃ addition, operation.addition? session.answers = some addition ∧
      session.perform service operation = session.attemptAddition service addition) ∨
    ∃ pullRequest, operation = .generate pullRequest := by
  cases operation with
  | dispatch edit =>
      exact .inl (attempt_keeps (isAtomic_dispatch service edit) .still fun _ => plainStep_dispatch)
  | set path text =>
      exact .inl (attempt_keeps (isAtomic_set service path text) .still fun _ => plainStep_set)
  | next | back | check => exact .inl (walkStep_perform rfl).plain
  | addImage image => exact .inr (.inl ⟨_, rfl, rfl⟩)
  | addSubstitution substitution => exact .inr (.inl ⟨_, rfl, rfl⟩)
  | addTest test => exact .inr (.inl ⟨_, rfl, rfl⟩)
  | updateTest name test =>
      simp only [perform, updateTest, Operation.addition?]
      cases session.answers.findTest? name with
      | none => exact .inl (.rejected _)
      | some index => exact .inr (.inl ⟨_, rfl, rfl⟩)
  | preview => exact .inl .previewed
  | generate pullRequest => exact .inr (.inr ⟨pullRequest, rfl⟩)

end Session

end Onboarding
