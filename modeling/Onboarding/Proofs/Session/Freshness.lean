import Onboarding.Proofs.Session.Generation

/-! # Records that are up to date

With a steady service the check of a stage depends on the answers alone
(`Onboarding.Session.judgement`), and it leaves them as it judges them. So to check a stage again
changes nothing (`Onboarding.Session.fresh_check`). A session in which only edits are made and
the stages are walked through is checked whenever its answers or its stage change; its record is
always what another check would come to (`Onboarding.Session.record_stays_fresh`).
-/

namespace Onboarding

/-- A steady service complains the same whatever it was asked before. -/
theorem Service.IsSteady.complaint_eq {service : Service} (steady : service.IsSteady)
    (before : List Call) (call : Call) :
    service.complaint before call = service.complaint [] call := by
  cases call with
  | validate scope document extra => simp only [complaint, steady.validate before]
  | convert document => rfl
  | generate document caller pullRequest => rfl
  | lookup org repo => simp only [complaint, steady.lookup before]

/-- A default branch is not replaced by another one. -/
theorem Answers.withBranch_withBranch (answers : Answers) :
    answers.withBranch.withBranch = answers.withBranch := by
  have named : Text.isBlank defaultBranch = false := by decide +kernel
  by_cases isDefault : (Text.isBlank answers.branch && !Text.isBlank answers.org &&
      !Text.isBlank answers.repo) = true
  · unfold withBranch
    rw [if_pos isDefault]
    simp only [named, Bool.false_and, Bool.false_eq_true, ↓reduceIte]
  · have kept : answers.withBranch = answers := if_neg isDefault
    rw [kept, kept]

/-- What a service has to say to a call: whether things go on, and the complaint if they do
not. -/
def Service.reaction (service : Service) (before : List Call) (call : Call) : Bool × List String :=
  (service.affirms before call, service.complaint before call)

/-- A steady service says the same whatever it was asked before. -/
theorem Service.IsSteady.reaction_eq {service : Service} (steady : service.IsSteady)
    (before : List Call) (call : Call) : service.reaction before call = service.reaction [] call := by
  rw [reaction, steady.affirms_eq, steady.complaint_eq]
  rfl

namespace Stage

/-- Every stage but the last has one behind it. -/
theorem exists_next {stage : Stage} (notLast : stage ≠ .verify) :
    ∃ next, stage.next? = some next := by
  cases stage with
  | verify => exact absurd rfl notLast
  | repository | build | tests => exact ⟨_, rfl⟩

/-- The way back from the next stage leads to the stage itself, and never from the first one. -/
theorem previous_next {stage next : Stage} (isNext : stage.next? = some next) :
    next.previous? = some stage ∧ next ≠ .repository := by
  cases stage <;> cases isNext <;> exact ⟨rfl, by decide⟩

end Stage

namespace Session

/-- How the check of a stage judges some answers: whether the stage is complete with them, and
what the user is told if it is not. -/
def judgement (service : Service) (asked : List Call) (answers : Answers) : Stage → Bool × List String
  | .repository =>
    if answers.isIdentified then service.reaction asked (lookupCall answers) else (false, [])
  | .build => (answers.build.isComplete, [Notice.buildIncomplete.text])
  | .tests => (!answers.tests.isEmpty, [Notice.noTests.text])
  | .verify =>
    match answers.submittable with
    | .ok () => service.reaction asked (fullValidation answers)
    | .error error => (false, [error.message])

/-- The record of a stage that is judged. -/
def judged (stage : Stage) (judgement : Bool × List String) : StageRecord :=
  ⟨stage, judgement.1, if judgement.1 then [] else judgement.2⟩

/-- The answers as the check of a stage leaves them. -/
def settledOn (stage : Stage) (answers : Answers) : Answers :=
  if stage = .repository then answers.withBranch else answers

variable {service : Service} {session : Session}

/-- With a steady service, a judgement does not depend on what was asked before. -/
theorem judgement_eq (steady : service.IsSteady) (asked : List Call) (answers : Answers)
    (stage : Stage) : judgement service asked answers stage = judgement service [] answers stage := by
  cases stage <;> simp only [judgement, steady.reaction_eq asked]

/-- What a check settles in the answers is settled at once. -/
theorem settledOn_settledOn (stage : Stage) (answers : Answers) :
    settledOn stage (settledOn stage answers) = settledOn stage answers := by
  unfold settledOn
  split
  · exact answers.withBranch_withBranch
  · rfl

/-- A stage that is settled has the record of that answer. -/
theorem settle_record (session : Session) (affirmed : Bool) (messages : List String) :
    (session.settle affirmed messages).record = judged session.record.stage (affirmed, messages) := by
  cases affirmed <;> rfl

/-- A check leaves the stage with the record of how it judges the answers it leaves. -/
theorem check_judged (service : Service) (session : Session) :
    let answers := settledOn session.stage session.answers
    (session.check service).answers = answers ∧
      (session.check service).record =
        judged session.record.stage (judgement service session.asked answers session.stage) := by
  unfold check
  cases session.stage with
  | repository =>
      simp only [settledOn, ↓reduceIte, judgement]
      rcases session.checkRepository_answered service with
        ⟨notIdentified, checked⟩ | ⟨identified, checked⟩
      · rw [checked, notIdentified]
        exact ⟨rfl, rfl⟩
      · rw [checked, if_pos identified, settle_answers, settle_record]
        exact ⟨rfl, rfl⟩
  | build =>
      rw [checkBuild_eq]
      exact ⟨settle_answers .., settle_record ..⟩
  | tests =>
      rw [checkTests_eq]
      exact ⟨settle_answers .., settle_record ..⟩
  | verify =>
      rcases session.checkVerify_answered service with
        ⟨error, refused, checked⟩ | ⟨submittable, checked⟩
      · have isRefused : judgement service session.asked session.answers .verify =
            (false, [error.message]) := by
          simp only [judgement, refused]
        rw [checked]
        exact ⟨rfl, congrArg (judged session.record.stage) isRefused.symm⟩
      · have isAsked : judgement service session.asked session.answers .verify =
            service.reaction session.asked (fullValidation session.answers) := by
          simp only [judgement, submittable]
        rw [checked, settle_answers, settle_record]
        exact ⟨rfl, congrArg (judged session.record.stage) isAsked.symm⟩

/-- Another check would change neither the answers nor the record. -/
structure Fresh (service : Service) (session : Session) : Prop where
  answers : (session.check service).answers = session.answers
  record : (session.check service).record = session.record

/-- A check that has just been made need not be made again. -/
theorem fresh_check (steady : service.IsSteady) (session : Session) :
    (session.check service).Fresh service := by
  obtain ⟨answers, record⟩ := session.check_judged service
  obtain ⟨answersAgain, recordAgain⟩ := (session.check service).check_judged service
  have unchanged : settledOn (session.check service).stage (session.check service).answers =
      (session.check service).answers := by
    rw [check_stage, answers, settledOn_settledOn]
  refine ⟨answersAgain.trans unchanged, ?_⟩
  rw [recordAgain, unchanged, check_stage, check_recordStage, record, answers,
    judgement_eq steady, judgement_eq steady session.asked]

/-- A stage that has just been entered need not be checked again. -/
theorem fresh_enter (steady : service.IsSteady) (session : Session) (stage : Stage) :
    (session.enter service stage).Fresh service :=
  fresh_check steady { session with stage, record := .fresh stage }

/-- An edit, and a step through the stages, ends with a check or leaves everything as it was. -/
theorem fresh_perform (steady : service.IsSteady) {operation : Operation}
    (edits : operation.isEdit = true ∨ operation.isWalking = true) (fresh : session.Fresh service) :
    (session.perform service operation).1.Fresh service := by
  have dispatched {edit : Edit} {after : Session}
      (isDispatched : session.dispatch service edit = .ok after) : after.Fresh service := by
    rw [dispatch_eq] at isDispatched
    obtain ⟨answers, _, rfl⟩ := map_eq_ok_iff.mp isDispatched
    exact fresh_check steady _
  rcases edits with isEdit | isWalking
  · cases operation with
    | dispatch edit =>
        exact attempt_keeps (isAtomic_dispatch service edit) fresh fun _ => dispatched
    | set path text =>
        refine attempt_keeps (isAtomic_set service path text) fresh fun after assigned => ?_
        change session.set service path text = .ok after at assigned
        rw [set_eq_of_assignment] at assigned
        split at assigned
        · cases assigned
        · cases assigned
          exact fresh
        · exact dispatched assigned
    | _ => cases isEdit
  · exact walk_keeps _ isWalking fresh (fresh_check steady session) (fresh_enter steady session)

/-- A complete stage has nothing to say, when its record is fresh. -/
theorem Fresh.messages_eq_nil (fresh : session.Fresh service)
    (complete : session.record.complete = true) : session.record.messages = [] := by
  rw [← fresh.record, (session.check_judged service).2] at complete ⊢
  exact if_pos complete

/-- The stage after a complete one can be entered, and from there the way back leads to the same
stage, answers and record. -/
theorem Fresh.back_of_next (fresh : session.Fresh service) (steady : service.IsSteady)
    (onRecord : session.OnRecord) (complete : session.record.complete = true)
    (notLast : session.stage ≠ .verify) :
    ∃ ahead, session.next service = .ok ahead ∧ session.stage.next? = some ahead.stage ∧
      (ahead.back service).stage = session.stage ∧
      (ahead.back service).answers = session.answers ∧
      (ahead.back service).record = session.record := by
  obtain ⟨stage, isNext⟩ := Stage.exists_next notLast
  obtain ⟨isPrevious, notFirst⟩ := Stage.previous_next isNext
  have advanced : session.next service = .ok (session.enter service stage) := by
    rw [next_eq, if_pos complete, isNext]
  -- only the check of the first stage changes answers, and that is not the one that is entered
  have unchanged : (session.enter service stage).answers = session.answers :=
    (check_judged service { session with stage, record := .fresh stage }).1.trans
      (if_neg notFirst)
  have entered : (session.enter service stage).stage = stage := enter_stage ..
  refine ⟨_, advanced, entered.symm ▸ isNext, ?_⟩
  have returned : (session.enter service stage).back service =
      (session.enter service stage).enter service session.stage := by
    unfold back
    rw [entered, isPrevious]
  rw [returned]
  obtain ⟨answers, record⟩ := session.check_judged service
  rw [fresh.answers] at answers
  rw [fresh.record, onRecord] at record
  obtain ⟨answersThere, recordThere⟩ := check_judged service
    { session.enter service stage with stage := session.stage, record := .fresh session.stage }
  refine ⟨enter_stage .., answersThere.trans ?_, recordThere.trans ?_⟩
  · simp only [unchanged, ← answers]
  · rw [record, judgement_eq steady, judgement_eq steady session.asked]
    simp only [unchanged]
    rfl

/-- In a session with a steady service in which edits are made and the stages are walked through,
the record is always fresh: to check the stage once more changes neither the answers nor the
record. So a complete stage has nothing to say, and the way to the next stage and back leads to
where it began. -/
theorem record_stays_fresh (service : Service) (steady : service.IsSteady) (answers : Answers)
    (caller : Caller) (operations : List Operation)
    (edits : ∀ operation ∈ operations, operation.isEdit = true ∨ operation.isWalking = true) :
    let session := (start service answers caller).run service operations
    ((session.check service).answers = session.answers ∧
      (session.check service).record = session.record) ∧
    (session.record.complete = true → session.record.messages = []) ∧
    (session.record.complete = true → session.stage ≠ .verify →
      ∃ ahead, session.next service = .ok ahead ∧ session.stage.next? = some ahead.stage ∧
        (ahead.back service).stage = session.stage ∧
        (ahead.back service).answers = session.answers ∧
        (ahead.back service).record = session.record) := by
  intro session
  have fresh : session.Fresh service :=
    run_keeps_among (fun _ _ edits fresh => fresh_perform steady edits fresh)
      (fresh_enter steady _ _) edits
  have onRecord : session.OnRecord := run_keeps onRecord_perform (onRecord_enter _ _) operations
  exact ⟨⟨fresh.answers, fresh.record⟩, fresh.messages_eq_nil,
    fresh.back_of_next steady onRecord⟩

/-- The branch is blanked on the build stage, an edit is refused there, and back on the repository
stage there is a default branch again; the way to the build stage and back changes nothing. -/
theorem record_stays_fresh_sample :
    let operations : List Operation :=
      [.next, .set "branch" (some " "), .dispatch (.removeTest 5), .back]
    let session := (start .agreeable .sample .unknown).run .agreeable operations
    Service.agreeable.IsSteady ∧
    (∀ operation ∈ operations, operation.isEdit = true ∨ operation.isWalking = true) ∧
    session.stage = .repository ∧ session.answers.branch = "master" ∧
    session.record = ⟨.repository, true, []⟩ ∧
    (session.check .agreeable).record = session.record ∧
    ∃ ahead, session.next .agreeable = .ok ahead ∧
      (ahead.back .agreeable).answers = session.answers ∧
      (ahead.back .agreeable).record = session.record := by
  intro operations session
  have edits : ∀ operation ∈ operations,
      operation.isEdit = true ∨ operation.isWalking = true := by decide
  have complete : session.record = ⟨.repository, true, []⟩ := by decide +kernel
  have onFirst : session.stage = .repository := by decide +kernel
  obtain ⟨⟨_, record⟩, _, returns⟩ :=
    record_stays_fresh .agreeable Service.isSteady_agreeable .sample .unknown operations edits
  obtain ⟨ahead, advanced, _, _, answersBack, recordBack⟩ :=
    returns (congrArg StageRecord.complete complete) (by rw [onFirst]; decide)
  exact ⟨Service.isSteady_agreeable, edits, onFirst, by decide +kernel, complete, record, ahead,
    advanced, answersBack, recordBack⟩

end Session

end Onboarding
