import Onboarding.Proofs.Session.Operation

/-! # All or nothing

An operation that fails leaves the answers, the stage and the caller of a session alone, and
no stage becomes complete by it (`Onboarding.Session.failure_leaves_session`). There are few
ways for a session to come out of a failure (`Onboarding.Session.FailedStep`): as it was, with
word of a rejection, or with its stage incomplete, each time after at most one call.

An addition that is made is made as the service accepted it: the document that was validated
is that of the answers the session has from then on
(`Onboarding.Session.additions_are_accepted`).
-/

namespace Onboarding

namespace Operation

/-- Whether an operation, when it fails, leaves not even word of the failure. -/
def isTraceless : Operation → Bool
  | .dispatch _ | .set _ _ | .next => true
  | _ => false

/-- Whether an operation is an addition that is refused before the service is asked. -/
def isRefused (answers : Answers) : Operation → Bool
  | .addImage image => !((Edit.addImage image).apply answers).isOk
  | .addSubstitution substitution => !((Edit.addSubstitution substitution).apply answers).isOk
  | .addTest test => !((Edit.addTest test).apply answers).isOk
  | .updateTest name test =>
    match answers.findTest? name with
    | some index => !((Edit.replaceTest index test).apply answers).isOk
    | none => true
  | _ => false

end Operation

namespace Session

/-! ## Failures -/

/-- What becomes of a session in an operation that fails. -/
inductive FailedStep (session : Session) : Session → Prop
  | still : FailedStep session session
  | rejected (message : String) : FailedStep session (session.reject message)
  | failed (messages : List String) : FailedStep session (session.fail messages)
  | askedAndRejected (call : Call) (message : String) :
      FailedStep session ((session.asking call).reject message)
  | askedAndFailed (call : Call) (messages : List String) :
      FailedStep session ((session.asking call).fail messages)

/-- A session is as it was but for its calls and messages, and no stage has become
complete. -/
structure Withstands (before after : Session) : Prop where
  answers : after.answers = before.answers
  stage : after.stage = before.stage
  recordStage : after.record.stage = before.record.stage
  caller : after.caller = before.caller
  complete : after.record.complete = before.record.complete ∨ after.record.complete = false

variable {service : Service} {session : Session}

/-- However a step fails, the session withstands it. -/
theorem FailedStep.withstands {after : Session} (step : FailedStep session after) :
    session.Withstands after := by
  cases step with
  | still => exact ⟨rfl, rfl, rfl, rfl, .inl rfl⟩
  | rejected message => exact ⟨rfl, rfl, rfl, rfl, .inl rfl⟩
  | failed messages => exact ⟨rfl, rfl, rfl, rfl, .inr rfl⟩
  | askedAndRejected call message => exact ⟨rfl, rfl, rfl, rfl, .inl rfl⟩
  | askedAndFailed call messages => exact ⟨rfl, rfl, rfl, rfl, .inr rfl⟩

/-- An attempt that fails leaves the session as it was, if the change is atomic. -/
theorem attempt_of_failed {ε : Type} {change : InPlace ε Session Unit} (atomic : change.IsAtomic)
    (failed : (session.attempt change).2 = false) : (session.attempt change).1 = session := by
  rcases attempt_cases atomic session with ⟨_, _, attempted⟩ | ⟨_, _, attempted⟩
  · rw [attempted] at failed
    cases failed
  · rw [attempted]

/-- An operation that leaves no word of its failure leaves the session as it was. -/
theorem perform_of_traceless {operation : Operation} (traceless : operation.isTraceless = true)
    (failed : (session.perform service operation).2 = false) :
    (session.perform service operation).1 = session := by
  cases operation with
  | dispatch edit => exact attempt_of_failed (isAtomic_dispatch service edit) failed
  | set path text => exact attempt_of_failed (isAtomic_set service path text) failed
  | next => exact attempt_of_failed (isAtomic_next service) failed
  | _ => cases traceless

/-- An addition whose edit is refused leaves word of it, and nothing else. -/
theorem attemptAddition_of_refused (addition : Addition)
    (refused : (addition.edit.apply session.answers).isOk = false) :
    ∃ message, session.attemptAddition service addition = (session.reject message, false) := by
  unfold attemptAddition
  rcases session.commit_cases service addition.edit addition.scope addition.extra with
    ⟨error, _, committed⟩ | ⟨candidate, applied, _⟩
  · rw [committed]
    exact ⟨error.message, rfl⟩
  · rw [applied] at refused
    cases refused

/-- An addition that is refused before the service is asked leaves nothing but word of it. -/
theorem perform_of_refused (service : Service) {operation : Operation}
    (refused : operation.isRefused session.answers = true) :
    ∃ message, session.perform service operation = (session.reject message, false) := by
  cases operation with
  | addImage image =>
      exact attemptAddition_of_refused (.ofImage image) ((Bool.not_eq_true' _).mp refused)
  | addSubstitution substitution =>
      exact attemptAddition_of_refused (.ofSubstitution substitution)
        ((Bool.not_eq_true' _).mp refused)
  | addTest test =>
      exact attemptAddition_of_refused (.ofTest test) ((Bool.not_eq_true' _).mp refused)
  | updateTest name test =>
      change ∃ message, session.updateTest service name test = (session.reject message, false)
      cases found : session.answers.findTest? name with
      | none => exact ⟨_, updateTest_of_absent found test⟩
      | some index =>
          simp only [Operation.isRefused, found] at refused
          rw [updateTest_of_found found]
          exact attemptAddition_of_refused (.ofReplacement index test)
            ((Bool.not_eq_true' _).mp refused)
  | _ => cases refused

/-- An addition that is not made fails in one of these ways. -/
theorem failedStep_attemptAddition (addition : Addition)
    (failed : (session.attemptAddition service addition).2 = false) :
    FailedStep session (session.attemptAddition service addition).1 := by
  rcases session.attemptAddition_cases service addition with
    ⟨message, attempted⟩ | ⟨_, messages, attempted⟩ | ⟨_, _, _, _, attempted⟩
  · rw [attempted]
    exact .rejected message
  · rw [attempted]
    exact .askedAndFailed _ messages
  · rw [attempted] at failed
    cases failed

theorem failedStep_preview (failed : (session.preview service).2.isSome = false) :
    FailedStep session (session.preview service).1 := by
  rcases session.preview_cases service with ⟨_, _, previewed⟩ | ⟨_, previewed⟩
  · rw [previewed] at failed
    cases failed
  · rw [previewed]
    exact .askedAndRejected _ _

theorem failedStep_generate {pullRequest : Bool}
    (failed : (session.generate service pullRequest).2.isSome = false) :
    FailedStep session (session.generate service pullRequest).1 := by
  rcases session.generate_cases service pullRequest with
    ⟨_, _, generated⟩ | ⟨_, ⟨_, _, generated⟩ | ⟨_, generated⟩⟩
  · rw [generated]
    exact .failed _
  · rw [generated] at failed
    cases failed
  · rw [generated]
    exact .askedAndFailed _ _

/-- All that an operation can do when it fails. -/
theorem failedStep_perform {operation : Operation}
    (failed : (session.perform service operation).2 = false) :
    FailedStep session (session.perform service operation).1 := by
  cases operation with
  | dispatch edit => exact (perform_of_traceless rfl failed).symm ▸ .still
  | set path text => exact (perform_of_traceless rfl failed).symm ▸ .still
  | next => exact (perform_of_traceless rfl failed).symm ▸ .still
  | back => cases failed
  | check => cases failed
  | addImage image => exact failedStep_attemptAddition (.ofImage image) failed
  | addSubstitution substitution =>
      exact failedStep_attemptAddition (.ofSubstitution substitution) failed
  | addTest test => exact failedStep_attemptAddition (.ofTest test) failed
  | updateTest name test =>
      change (session.updateTest service name test).2 = false at failed
      change FailedStep session (session.updateTest service name test).1
      cases found : session.answers.findTest? name with
      | none =>
          rw [updateTest_of_absent found]
          exact .rejected _
      | some index =>
          rw [updateTest_of_found found] at failed ⊢
          exact failedStep_attemptAddition (.ofReplacement index test) failed
  | preview => exact failedStep_preview failed
  | generate pullRequest => exact failedStep_generate failed

/-- An operation that fails leaves the answers, the stage and the caller alone and completes no
stage. If it is an edit, an assignment or a step to the next stage, it leaves no trace at all;
if it is an addition that is refused before the service is asked, the service is not asked and
the stage stays as complete as it was. -/
theorem failure_leaves_session (service : Service) (session : Session) (operation : Operation)
    (failed : (session.perform service operation).2 = false) :
    let after := (session.perform service operation).1
    session.Withstands after ∧
    (operation.isTraceless = true → after = session) ∧
    (operation.isRefused session.answers = true →
      after.asked = session.asked ∧ after.record.complete = session.record.complete) := by
  intro after
  refine ⟨(failedStep_perform failed).withstands,
    fun traceless => perform_of_traceless traceless failed, fun refused => ?_⟩
  obtain ⟨message, performed⟩ := perform_of_refused service refused
  have isAfter : after = session.reject message := congrArg Prod.fst performed
  rw [isAfter]
  exact ⟨rfl, rfl⟩

/-- A test with the name of another is refused before the service is asked. -/
theorem duplicate_leaves_session :
    let service := Service.agreeable
    let session := start service .sample .unknown
    let operation := Operation.addTest { TestPlan.blank with name := "U", commands := some "x" }
    let after := (session.perform service operation).1
    (session.perform service operation).2 = false ∧ session.Withstands after ∧
      after.asked = session.asked := by
  intro service session operation after
  have failed : (session.perform service operation).2 = false := by decide +kernel
  have refused : operation.isRefused session.answers = true := by decide +kernel
  obtain ⟨withstands, _, quiet⟩ := failure_leaves_session service session operation failed
  exact ⟨failed, withstands, (quiet refused).1⟩

/-! ## Additions -/

/-- An addition, made or not, as the service answers to it. It is made exactly if its edit is
accepted and the service finds the document of the edited answers valid. Then this validation
is the only call, and the edited answers are those the session has from then on. -/
structure Commits (service : Service) (session : Session) (edit : Edit) (scope : Scope)
    (extra : Extra) (result : Session × Bool) : Prop where
  made_iff : result.2 = true ↔ ∃ candidate verdict, edit.apply session.answers = .ok candidate ∧
    service.validate session.asked scope (Document.ofAnswers candidate) extra = .ok verdict ∧
    verdict.valid = true
  made : result.2 = true → edit.apply session.answers = .ok result.1.answers ∧
    result.1.asked = session.asked ++ [.validate scope result.1.document extra] ∧
    ∃ verdict, service.validate session.asked scope result.1.document extra = .ok verdict ∧
      verdict.valid = true
  notMade : result.2 = false →
    result.1.asked = session.asked ∨ ∃ call, result.1.asked = session.asked ++ [call]

/-- A commit stays one if a check follows that settles the stage. -/
theorem commits_followedBy {edit : Edit} {scope : Scope} {extra : Extra} {check : Session → Session}
    (settles : ∀ session, ∃ affirmed messages, check session = session.settle affirmed messages) :
    Commits service session edit scope extra
      (followedBy check (session.commit service edit scope extra)) := by
  rcases session.commit_cases service edit scope extra with
    ⟨error, refused, committed⟩ | ⟨candidate, applied, ⟨affirmed, committed⟩ |
      ⟨notAffirmed, messages, committed⟩⟩
  · rw [committed, followedBy]
    refine ⟨⟨fun made => absurd made Bool.false_ne_true, ?_⟩,
      fun made => absurd made Bool.false_ne_true, fun _ => .inl rfl⟩
    rintro ⟨candidate, _, applied, _⟩
    rw [refused] at applied
    cases applied
  · obtain ⟨verdict, answered, valid⟩ := Service.affirms_validate_iff.mp affirmed
    rw [committed, followedBy]
    -- the check that follows makes no call and leaves the answers as they were validated
    obtain ⟨complete, messages, settled⟩ := settles _
    rw [settled]
    refine ⟨⟨fun _ => ⟨candidate, verdict, applied, answered, valid⟩, fun _ => rfl⟩,
      fun _ => ?_, fun notMade => absurd notMade.symm Bool.false_ne_true⟩
    simp only [document, settle_answers, settle_asked]
    exact ⟨applied, rfl, verdict, answered, valid⟩
  · rw [committed, followedBy]
    refine ⟨⟨fun made => absurd made Bool.false_ne_true, ?_⟩,
      fun made => absurd made Bool.false_ne_true, fun _ => .inr ⟨_, rfl⟩⟩
    rintro ⟨other, verdict, appliedOther, answered⟩
    obtain rfl : candidate = other := Except.ok.inj (applied.symm.trans appliedOther)
    rw [Service.affirms_validate_iff.mpr ⟨verdict, answered⟩] at notAffirmed
    cases notAffirmed

/-- Every addition is a commit of its edit. -/
theorem commits_attemptAddition (service : Service) (session : Session) (addition : Addition) :
    Commits service session addition.edit addition.scope addition.extra
      (session.attemptAddition service addition) := by
  refine commits_followedBy fun session => ?_
  unfold Addition.check
  split
  · exact ⟨_, _, session.checkTests_eq⟩
  · exact ⟨_, _, session.checkBuild_eq⟩

/-- Whatever is added was accepted by the service, in the scope that belongs to it, as part of
the very answers that the session has afterwards. An updated test takes the place of the one
that is found under the name. -/
theorem additions_are_accepted (service : Service) (session : Session) :
    (∀ image, Commits service session (.addImage image) .baseImages KeyMap.empty
      (session.addImage service image)) ∧
    (∀ substitution, Commits service session (.addSubstitution substitution)
      .operatorSubstitution (substitutionData substitution)
      (session.addSubstitution service substitution)) ∧
    (∀ test, Commits service session (.addTest test) .tests KeyMap.empty
      (session.addTest service test)) ∧
    ∀ name test,
      match session.answers.findTest? name with
      | some index => Commits service session (.replaceTest index test) .tests KeyMap.empty
          (session.updateTest service name test)
      | none => (session.updateTest service name test).2 = false ∧
          (session.updateTest service name test).1.asked = session.asked := by
  refine ⟨fun image => commits_attemptAddition service session (.ofImage image),
    fun substitution => commits_attemptAddition service session (.ofSubstitution substitution),
    fun test => commits_attemptAddition service session (.ofTest test), fun name test => ?_⟩
  cases found : session.answers.findTest? name with
  | none =>
      dsimp only
      rw [updateTest_of_absent found]
      exact ⟨rfl, rfl⟩
  | some index =>
      dsimp only
      rw [updateTest_of_found found]
      exact commits_attemptAddition service session (.ofReplacement index test)

/-- The first test is found under its name in capitals, and its replacement is validated once. -/
theorem replacement_is_accepted :
    let service := Service.agreeable
    let session := start service .sample .unknown
    let test := { TestPlan.blank with name := "v", commands := some "m" }
    let result := session.updateTest service "U" test
    result.2 = true ∧ (Edit.replaceTest 0 test).apply session.answers = .ok result.1.answers ∧
      result.1.asked = session.asked ++ [.validate .tests result.1.document KeyMap.empty] := by
  intro service session test result
  have isMade : result.2 = true := by decide +kernel
  have found : session.answers.findTest? "U" = some 0 := by decide +kernel
  have accepted := (additions_are_accepted service session).2.2.2 "U" test
  rw [found] at accepted
  obtain ⟨edited, asked, _⟩ := accepted.made isMade
  exact ⟨isMade, edited, asked⟩

end Session

end Onboarding
