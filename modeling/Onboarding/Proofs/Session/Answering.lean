import Onboarding.Session.Basic

/-! # What the service answers, and what a session makes of it

Every call has one kind of answer that lets things go on: a lookup that finds
nothing, a validation with a positive verdict, a rendering or a generation that came
about (`Service.affirms`). A session asks at most one call in an operation, and
whether its stage passes or an addition is made depends on nothing but that answer.
The lemmas say so for each part of an operation, so that nothing later has to open
the parts themselves.
-/

namespace Onboarding

/-- Whether a call is answered in the way that lets things go on. -/
def Service.affirms (service : Service) (before : List Call) : Call → Bool
  | .validate scope document extra =>
    match service.validate before scope document extra with
    | .ok verdict => verdict.valid
    | .error _ => false
  | .convert document => (service.convert before document).isOk
  | .generate document caller pullRequest =>
    (service.generate before document caller pullRequest).isOk
  | .lookup org repo =>
    match service.lookup before org repo with
    | .ok existing => !existing
    | .error _ => false

/-- A validation is affirmed by a positive verdict. -/
theorem Service.affirms_validate_iff {service : Service} {before : List Call} {scope : Scope}
    {document : Document} {extra : Extra} :
    service.affirms before (.validate scope document extra) = true ↔
      ∃ verdict, service.validate before scope document extra = .ok verdict ∧
        verdict.valid = true := by
  simp only [affirms]
  cases service.validate before scope document extra with
  | error error => simp
  | ok verdict => simp

/-- What the user is told about a call that is not answered in the way that lets things go
on. -/
def Service.complaint (service : Service) (before : List Call) : Call → List String
  | .validate scope document extra =>
    match service.validate before scope document extra with
    | .ok verdict => verdict.messages
    | .error _ => [Notice.serviceUnavailable.text]
  | .convert _ | .generate _ _ _ => [Notice.serviceUnavailable.text]
  | .lookup org repo =>
    match service.lookup before org repo with
    | .ok _ => [Notice.configurationExists.text]
    | .error _ => [Notice.lookupFailed.text]

/-- The service that lets everything go on. -/
def Service.agreeable : Service where
  validate _ _ _ _ := .ok Verdict.accepted
  convert _ _ := .ok ""
  generate _ _ _ _ := .ok ""
  lookup _ _ _ := .ok false

/-- The service that rejects nothing but whole documents. -/
def Service.rejectingAll : Service :=
  { Service.agreeable with
    validate := fun _ scope _ _ =>
      .ok (if scope = .all then Verdict.rejected "" else Verdict.accepted) }

/-- The service that lets everything go on, but knows a configuration for every repository of
an organization. -/
def Service.knowing (org : String) : Service :=
  { Service.agreeable with lookup := fun _ name _ => .ok (name == org) }

theorem Service.isSteady_agreeable : Service.agreeable.IsSteady where
  validate _ _ _ _ := rfl
  convert _ _ := rfl
  generate _ _ _ _ := rfl
  lookup _ _ _ := rfl

theorem Service.isSteady_knowing (org : String) : (Service.knowing org).IsSteady where
  validate _ _ _ _ := rfl
  convert _ _ := rfl
  generate _ _ _ _ := rfl
  lookup _ _ _ := rfl

/-- Answers with one base image and one test. -/
def Answers.sample : Answers :=
  { Answers.blank with
    org := "o"
    repo := "r"
    build := { BuildPlan.blank with
      goVersion := some "1"
      buildCommands := some "m"
      testBuildCommands := some "m"
      baseImages := [⟨"i", "n", "t"⟩] }
    tests := [{ TestPlan.blank with name := "u", commands := some "m" }] }

namespace Call

/-- Whether a call asks if there is a configuration. -/
def isLookup : Call → Bool
  | .lookup _ _ => true
  | _ => false

/-- Whether a call has a whole document validated. -/
def isFullValidation : Call → Bool
  | .validate .all _ _ => true
  | _ => false

end Call

/-- Among the calls that were made, a call is the latest one of a kind. -/
def Call.IsLatest (kind : Call → Bool) (asked before : List Call) (call : Call) : Prop :=
  ∃ after, asked = before ++ call :: after ∧ ∀ later ∈ after, kind later = false

/-- Among the calls of a kind that were made, the latest one was answered in the way
that lets things go on. -/
def Service.AffirmedLatest (service : Service) (kind : Call → Bool) (asked : List Call)
    (call : Call) : Prop :=
  ∃ before, Call.IsLatest kind asked before call ∧ service.affirms before call = true

section Latest

variable {service : Service} {kind : Call → Bool} {asked before : List Call} {call : Call}

/-- A call that has just been made is the latest of any kind. -/
theorem Call.IsLatest.of_last : IsLatest kind (asked ++ [call]) asked call :=
  ⟨[], rfl, fun _ member => absurd member List.not_mem_nil⟩

/-- A call stays the latest of its kind when one of another kind is made. -/
theorem Call.IsLatest.append (latest : IsLatest kind asked before call) {other : Call}
    (different : kind other = false) : IsLatest kind (asked ++ [other]) before call := by
  obtain ⟨after, rfl, later⟩ := latest
  refine ⟨after ++ [other], by simp, fun call member => ?_⟩
  rcases List.mem_append.mp member with old | new
  · exact later call old
  · exact List.mem_singleton.mp new ▸ different

namespace Service.AffirmedLatest

theorem of_affirms (affirmed : service.affirms asked call = true) :
    service.AffirmedLatest kind (asked ++ [call]) call :=
  ⟨asked, .of_last, affirmed⟩

/-- An affirmed call stays the latest of its kind when one of another kind is made. -/
theorem append (latest : service.AffirmedLatest kind asked call) {other : Call}
    (different : kind other = false) : service.AffirmedLatest kind (asked ++ [other]) call := by
  obtain ⟨before, isLatest, affirmed⟩ := latest
  exact ⟨before, isLatest.append different, affirmed⟩

end Service.AffirmedLatest

end Latest

namespace Session

variable (service : Service) (session : Session)

/-- A session whose stage is settled by an answer. -/
def settle (affirmed : Bool) (messages : List String) : Session :=
  if affirmed then session.pass else session.fail messages

section Settle

variable (session : Session) (affirmed : Bool) (messages : List String)

@[simp] theorem settle_answers : (session.settle affirmed messages).answers = session.answers := by
  cases affirmed <;> rfl

@[simp] theorem settle_stage : (session.settle affirmed messages).stage = session.stage := by
  cases affirmed <;> rfl

@[simp] theorem settle_caller : (session.settle affirmed messages).caller = session.caller := by
  cases affirmed <;> rfl

@[simp] theorem settle_asked : (session.settle affirmed messages).asked = session.asked := by
  cases affirmed <;> rfl

/-- A stage that is settled is complete if the answer was that things go on. -/
@[simp] theorem settle_complete :
    (session.settle affirmed messages).record.complete = affirmed := by
  cases affirmed <;> rfl

end Settle

/-- A validation asks the service, and comes to a verdict as positive as the answer. -/
theorem validate_cases (scope : Scope) (candidate : Answers) (extra : Extra) :
    let call := Call.validate scope (Document.ofAnswers candidate) extra
    ∃ verdict : Verdict,
      session.validate service scope candidate extra = (session.asking call, verdict) ∧
      verdict.valid = service.affirms session.asked call ∧
      verdict.messages = service.complaint session.asked call := by
  refine ⟨_, rfl, ?_⟩
  simp only [Service.affirms, Service.complaint]
  cases service.validate session.asked scope (Document.ofAnswers candidate) extra with
  | error _ => exact ⟨rfl, rfl⟩
  | ok verdict => exact ⟨rfl, rfl⟩

/-- The build stage is settled by the answers. -/
theorem checkBuild_eq :
    session.checkBuild =
      session.settle session.answers.build.isComplete [Notice.buildIncomplete.text] := by
  unfold checkBuild settle
  rfl

/-- The tests stage is settled by the answers. -/
theorem checkTests_eq :
    session.checkTests =
      session.settle (!session.answers.tests.isEmpty) [Notice.noTests.text] := by
  unfold checkTests settle
  cases session.answers.tests <;> rfl

/-- The lookup that the check of the repository stage makes. -/
def lookupCall (answers : Answers) : Call :=
  .lookup (Text.trim answers.org) (Text.trim answers.repo)

/-- The validation that the check of the verify stage makes. -/
def fullValidation (answers : Answers) : Call :=
  .validate .all (Document.ofAnswers answers) KeyMap.empty

/-- The check of the repository stage settles the branch, and then the stage by a
lookup of the trimmed names, unless the repository is not identified. -/
theorem checkRepository_answered :
    (session.answers.withBranch.isIdentified = false ∧
      session.checkRepository service =
        { session with answers := session.answers.withBranch }.fail []) ∨
    (session.answers.withBranch.isIdentified = true ∧
      let call := lookupCall session.answers.withBranch
      session.checkRepository service =
        ({ session with answers := session.answers.withBranch }.asking call).settle
          (service.affirms session.asked call) (service.complaint session.asked call)) := by
  unfold checkRepository
  by_cases identified : session.answers.withBranch.isIdentified = true
  · refine .inr ⟨identified, ?_⟩
    simp only [identified, Bool.not_true, Bool.false_eq_true, ↓reduceIte, lookupCall,
      Service.affirms, Service.complaint]
    rcases service.lookup session.asked _ _ with error | (_ | _)
    · rfl
    · rfl
    · rfl
  · rw [Bool.not_eq_true] at identified
    exact .inl ⟨identified, by simp only [identified, Bool.not_false, ↓reduceIte]⟩

/-- The check of the repository stage, by whether the repository is identified. -/
theorem checkRepository_cases :
    (session.answers.withBranch.isIdentified = false ∧
      session.checkRepository service =
        { session with answers := session.answers.withBranch }.fail []) ∨
    (session.answers.withBranch.isIdentified = true ∧ ∃ messages,
      session.checkRepository service =
        ({ session with answers := session.answers.withBranch }.asking
            (lookupCall session.answers.withBranch)).settle
          (service.affirms session.asked (lookupCall session.answers.withBranch)) messages) :=
  (session.checkRepository_answered service).imp_right fun ⟨identified, checked⟩ =>
    ⟨identified, _, checked⟩

/-- The check of the verify stage settles the stage by the validation of the whole
document, unless the answers cannot be submitted. -/
theorem checkVerify_answered :
    (∃ error, session.answers.submittable = .error error ∧
      session.checkVerify service = session.fail [error.message]) ∨
    (session.answers.submittable = .ok () ∧
      let call := fullValidation session.answers
      session.checkVerify service =
        (session.asking call).settle (service.affirms session.asked call)
          (service.complaint session.asked call)) := by
  unfold checkVerify
  cases submittable : session.answers.submittable with
  | error error => exact .inl ⟨error, rfl, rfl⟩
  | ok =>
      obtain ⟨verdict, validated, valid, messages⟩ :=
        session.validate_cases service .all session.answers KeyMap.empty
      refine .inr ⟨rfl, ?_⟩
      simp only [validated, judge, settle, valid, messages, fullValidation]
      rfl

/-- The check of the verify stage, by whether the answers can be submitted. -/
theorem checkVerify_cases :
    (∃ error, session.answers.submittable = .error error ∧
      session.checkVerify service = session.fail [error.message]) ∨
    (session.answers.submittable = .ok () ∧ ∃ messages,
      session.checkVerify service =
        (session.asking (fullValidation session.answers)).settle
          (service.affirms session.asked (fullValidation session.answers)) messages) :=
  (session.checkVerify_answered service).imp_right fun ⟨submittable, checked⟩ =>
    ⟨submittable, _, checked⟩

/-- Settling a stage leaves it the stage of its record. -/
theorem settle_eq (session : Session) (affirmed : Bool) (messages : List String) :
    ∃ complete notices, session.settle affirmed messages =
      { session with record := ⟨session.record.stage, complete, notices⟩ } := by
  cases affirmed
  · exact ⟨_, _, rfl⟩
  · exact ⟨_, _, rfl⟩

/-- A check may ask the service, settles the record of the stage, and changes the answers by no
more than the default branch. -/
theorem check_cases :
    ∃ answers asked complete messages,
      (answers = session.answers ∨ answers = session.answers.withBranch) ∧
      session.check service =
        ⟨answers, session.stage, ⟨session.record.stage, complete, messages⟩, session.caller,
          asked⟩ := by
  unfold check
  split
  · rcases session.checkRepository_cases service with ⟨_, checked⟩ | ⟨_, messages, checked⟩
    · exact ⟨_, _, _, _, .inr rfl, checked⟩
    · obtain ⟨_, _, settled⟩ := settle_eq _ _ messages
      exact ⟨_, _, _, _, .inr rfl, checked.trans settled⟩
  · obtain ⟨_, _, settled⟩ := session.settle_eq _ _
    exact ⟨_, _, _, _, .inl rfl, session.checkBuild_eq.trans settled⟩
  · obtain ⟨_, _, settled⟩ := session.settle_eq _ _
    exact ⟨_, _, _, _, .inl rfl, session.checkTests_eq.trans settled⟩
  · rcases session.checkVerify_cases service with ⟨_, _, checked⟩ | ⟨_, messages, checked⟩
    · exact ⟨_, _, _, _, .inl rfl, checked⟩
    · obtain ⟨_, _, settled⟩ := settle_eq _ _ messages
      exact ⟨_, _, _, _, .inl rfl, checked.trans settled⟩

/-- A check changes the answers by no more than the default branch. -/
theorem check_answers :
    (session.check service).answers = session.answers ∨
      (session.check service).answers = session.answers.withBranch := by
  obtain ⟨_, _, _, _, isAnswers, checked⟩ := session.check_cases service
  rw [checked]
  exact isAnswers

/-- A check stays on its stage. -/
theorem check_stage : (session.check service).stage = session.stage := by
  obtain ⟨_, _, _, _, _, checked⟩ := session.check_cases service
  rw [checked]

/-- A check leaves the record on its stage. -/
theorem check_recordStage : (session.check service).record.stage = session.record.stage := by
  obtain ⟨_, _, _, _, _, checked⟩ := session.check_cases service
  rw [checked]

theorem enter_answers (stage : Stage) :
    (session.enter service stage).answers = session.answers ∨
      (session.enter service stage).answers = session.answers.withBranch :=
  check_answers service { session with stage, record := .fresh stage }

theorem enter_stage (stage : Stage) : (session.enter service stage).stage = stage :=
  check_stage service { session with stage, record := .fresh stage }

/-- An edit that the service has to accept is refused before the service is asked, or
made when the service affirms the document of the edited answers, or not made. -/
theorem commit_answered (edit : Edit) (scope : Scope) (extra : Extra) :
    (∃ error, edit.apply session.answers = .error error ∧
      session.commit service edit scope extra = (session.reject error.message, false)) ∨
    ∃ candidate, edit.apply session.answers = .ok candidate ∧
      let call := Call.validate scope (Document.ofAnswers candidate) extra
      (service.affirms session.asked call = true ∧
        session.commit service edit scope extra =
          ({ session.asking call with
              answers := candidate
              record := session.record.silence }, true)) ∨
      (service.affirms session.asked call = false ∧
        session.commit service edit scope extra =
          ((session.asking call).fail (service.complaint session.asked call), false)) := by
  unfold commit
  cases applied : edit.apply session.answers with
  | error error => exact .inl ⟨error, rfl, rfl⟩
  | ok candidate =>
      obtain ⟨verdict, validated, valid, messages⟩ :=
        session.validate_cases service scope candidate extra
      refine .inr ⟨candidate, rfl, ?_⟩
      simp only [validated, ← valid, ← messages]
      cases verdict.valid
      · exact .inr ⟨rfl, rfl⟩
      · exact .inl ⟨rfl, rfl⟩

/-- An edit that the service has to accept, by whether it is refused before. -/
theorem commit_cases (edit : Edit) (scope : Scope) (extra : Extra) :
    (∃ error, edit.apply session.answers = .error error ∧
      session.commit service edit scope extra = (session.reject error.message, false)) ∨
    ∃ candidate, edit.apply session.answers = .ok candidate ∧
      let call := Call.validate scope (Document.ofAnswers candidate) extra
      (service.affirms session.asked call = true ∧
        session.commit service edit scope extra =
          ({ session.asking call with
              answers := candidate
              record := session.record.silence }, true)) ∨
      (service.affirms session.asked call = false ∧ ∃ messages,
        session.commit service edit scope extra =
          ((session.asking call).fail messages, false)) :=
  (session.commit_answered service edit scope extra).imp_right fun ⟨candidate, applied, outcome⟩ =>
    ⟨candidate, applied, outcome.imp_right fun ⟨refused, committed⟩ => ⟨refused, _, committed⟩⟩

/-- The preview asks the service to render, and leaves the stage as complete as it
was. -/
theorem preview_cases :
    let call := Call.convert session.document
    (service.affirms session.asked call = true ∧ ∃ rendered,
      session.preview service = (session.asking call, some rendered)) ∨
    (service.affirms session.asked call = false ∧
      session.preview service =
        ((session.asking call).reject Notice.serviceUnavailable.text, none)) := by
  simp only [preview, Service.affirms]
  cases service.convert session.asked session.document with
  | error _ => exact .inr ⟨rfl, rfl⟩
  | ok rendered => exact .inl ⟨rfl, rendered, rfl⟩

/-- The preview leaves the answers alone. -/
theorem preview_answers : (session.preview service).1.answers = session.answers := by
  rcases session.preview_cases service with ⟨_, _, previewed⟩ | ⟨_, previewed⟩
  · rw [previewed, asking]
  · rw [previewed, reject, asking]

/-- The generation settles the stage by a call, unless the answers cannot be
submitted. -/
theorem generate_cases (pullRequest : Bool) :
    (∃ error, session.answers.submittable = .error error ∧
      session.generate service pullRequest = (session.fail [error.message], none)) ∨
    (session.answers.submittable = .ok () ∧
      let call := Call.generate session.document session.caller pullRequest
      (service.affirms session.asked call = true ∧ ∃ identifier,
        session.generate service pullRequest = ((session.asking call).pass, some identifier)) ∨
      (service.affirms session.asked call = false ∧
        session.generate service pullRequest =
          ((session.asking call).fail [Notice.serviceUnavailable.text], none))) := by
  unfold generate
  cases submittable : session.answers.submittable with
  | error error => exact .inl ⟨error, rfl, rfl⟩
  | ok =>
      refine .inr ⟨rfl, ?_⟩
      simp only [Service.affirms]
      cases service.generate session.asked session.document session.caller pullRequest with
      | error _ => exact .inr ⟨rfl, rfl⟩
      | ok identifier => exact .inl ⟨rfl, identifier, rfl⟩

/-- The generation leaves the answers alone. -/
theorem generate_answers (pullRequest : Bool) :
    (session.generate service pullRequest).1.answers = session.answers := by
  rcases session.generate_cases service pullRequest with
    ⟨_, _, generated⟩ | ⟨_, ⟨_, _, generated⟩ | ⟨_, generated⟩⟩
  · rw [generated, fail]
  · rw [generated, pass, asking]
  · rw [generated, fail, asking]

end Session

end Onboarding
