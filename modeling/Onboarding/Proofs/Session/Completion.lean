import Onboarding.Proofs.Edit.Lists
import Onboarding.Proofs.Session.Operation

/-! # When a complete stage is complete

A stage has a criterion of its own (`Onboarding.Session.Meets`). The record of a session is
always about the stage that it is on, and whenever that stage has just been checked a complete
record speaks for the criterion (`Onboarding.Session.Truthful`). Two kinds of operations write
the record without such a check. A generation that succeeds completes the stage: what was
verified is then the pipeline itself (`Onboarding.Session.Generated`). And an addition is
followed by the check of the stage that it belongs to, whichever stage the session is on.

So there are operations that stray from the stage that they belong to
(`Onboarding.Session.strays`), and a few of them overstep: they complete a stage, or leave the
last one complete with another document (`Onboarding.Session.oversteps`). Until the next check
nothing is known then. In every other run a complete stage has what it is asked for
(`Onboarding.Session.complete_meets_criterion`).
-/

namespace Onboarding

namespace Operation

/-- Whether an operation that succeeds on a stage ends with the check of that stage. -/
def rechecks (stage : Stage) : Operation → Bool
  | .check | .dispatch _ => true
  | .set path text =>
    match Edit.ofAssignment path text with
    | .ok (some _) => true
    | _ => false
  | .next => stage.next?.isSome
  | .back => stage.previous?.isSome
  | .addImage _ | .addSubstitution _ => stage == .build
  | .addTest _ | .updateTest _ _ => stage == .tests
  | .preview | .generate _ => false

/-- Whether an operation belongs to a stage. Most belong to all. -/
def belongsTo (stage : Stage) : Operation → Bool
  | .addImage _ | .addSubstitution _ => stage == .build
  | .addTest _ | .updateTest _ _ => stage == .tests
  | .generate _ => stage == .verify
  | _ => true

variable {operation : Operation} {addition : Addition} {answers : Answers}

/-- An addition belongs to its own stage, and to no other. -/
theorem belongsTo_of_addition (isAddition : operation.addition? answers = some addition)
    (stage : Stage) : operation.belongsTo stage = (stage == addition.home) := by
  cases operation with
  | addImage _ | addSubstitution _ | addTest _ =>
      cases isAddition
      rfl
  | updateTest name test =>
      obtain ⟨index, _, rfl⟩ := Option.map_eq_some_iff.mp isAddition
      rfl
  | _ => cases isAddition

/-- No addition has the service validate a document as a whole. -/
theorem isFullValidation_of_addition (isAddition : operation.addition? answers = some addition)
    (document : Document) :
    Call.isFullValidation (.validate addition.scope document addition.extra) = false := by
  cases operation with
  | addImage _ | addSubstitution _ | addTest _ =>
      cases isAddition
      rfl
  | updateTest name test =>
      obtain ⟨index, _, rfl⟩ := Option.map_eq_some_iff.mp isAddition
      rfl
  | _ => cases isAddition

end Operation

/-- No addition belongs to the last stage. -/
theorem Addition.home_ne_verify (addition : Addition) : addition.home ≠ .verify := by
  unfold home
  split
  · exact Stage.noConfusion
  · exact Stage.noConfusion

/-- The check that follows an addition on its own stage is the check of that stage. -/
theorem Addition.check_eq (service : Service) {session : Session} {addition : Addition}
    (atHome : session.stage = addition.home) :
    addition.check session = session.check service := by
  unfold home at atHome
  unfold check
  split at atHome
  · rename_i toTests
    rw [if_pos toTests, Session.check, atHome]
  · rename_i toBuild
    rw [if_neg toBuild, Session.check, atHome]

namespace Session

/-- What a stage asks for before it may be left. -/
def Meets (service : Service) (session : Session) : Stage → Prop
  | .repository => session.answers.isIdentified = true ∧
      service.AffirmedLatest Call.isLookup session.asked (lookupCall session.answers)
  | .build => session.answers.build.isComplete = true
  | .tests => session.answers.tests ≠ []
  | .verify => session.answers.submittable = .ok () ∧
      service.AffirmedLatest Call.isFullValidation session.asked (fullValidation session.answers)

/-- On the last stage, with answers that can be submitted, a pipeline was generated of the
document of the session, and no document was validated as a whole since. -/
def Generated (service : Service) (session : Session) : Prop :=
  session.stage = .verify ∧ session.answers.submittable = .ok () ∧
    ∃ pullRequest, service.AffirmedLatest Call.isFullValidation session.asked
      (.generate session.document session.caller pullRequest)

/-- A stage that is recorded as complete meets its criterion. -/
def Truthful (service : Service) (session : Session) : Prop :=
  session.record.complete = true → session.Meets service session.stage

/-- The record speaks for the criterion of the stage, or for a pipeline that was generated. -/
def Sound (service : Service) (session : Session) : Prop :=
  session.Truthful service ∨ session.Generated service

/-- On the last stage, with answers that can be submitted, the document of the session is the
latest that was validated as a whole. -/
def UpToDate (session : Session) : Prop :=
  session.stage = .verify → session.answers.submittable = .ok () →
    ∃ before, Call.IsLatest Call.isFullValidation session.asked before
      (fullValidation session.answers)

/-! ## Operations that stray -/

/-- Whether an operation succeeds and ends with the check of the stage that the session is
on. -/
def settles (service : Service) (session : Session) (operation : Operation) : Bool :=
  (session.perform service operation).2 && operation.rechecks session.stage

/-- Whether an operation succeeds on a stage that it does not belong to. -/
def strays (service : Service) (session : Session) (operation : Operation) : Bool :=
  (session.perform service operation).2 && !operation.belongsTo session.stage

/-- Whether an operation that strays makes the stage complete, or leaves the last one
complete. -/
def oversteps (service : Service) (session : Session) (operation : Operation) : Bool :=
  session.strays service operation && (session.perform service operation).1.record.complete &&
    (!session.record.complete || session.stage == .verify)

/-- Whether all harm that some operations do is made good for by a check of the stage, when it
is known whether that done before them was. -/
def unharmed (service : Service) (harm : Session → Operation → Bool) (before : Bool)
    (session : Session) : List Operation → Bool
  | [] => before
  | operation :: operations =>
    unharmed service harm (session.settles service operation || before && !harm session operation)
      (session.perform service operation).1 operations

variable {service : Service} {session : Session}

/-- What a check brings about, and every operation keeps that does no harm, is so after a run
all harm of which is made good for. -/
theorem run_of_unharmed (kept : Session → Prop) {harm : Session → Operation → Bool}
    (settled : ∀ session operation, settles service session operation = true →
      kept (session.perform service operation).1)
    (harmless : ∀ session operation, kept session → harm session operation = false →
      kept (session.perform service operation).1)
    {before : Bool} (holds : before = true → kept session) {operations : List Operation}
    (isUnharmed : session.unharmed service harm before operations = true) :
    kept (session.run service operations) := by
  -- what was made good for before changes with each operation, and so does the session
  induction operations generalizing session before with
  | nil => exact holds isUnharmed
  | cons operation operations ih =>
      refine ih (fun isKept => ?_) isUnharmed
      rcases (Bool.or_eq_true _ _).mp isKept with settles | unharmed
      · exact settled session operation settles
      · obtain ⟨wasKept, noHarm⟩ := (Bool.and_eq_true _ _).mp unharmed
        exact harmless session operation (holds wasKept) ((Bool.not_eq_true' _).mp noHarm)

/-- A record that is not complete promises nothing. -/
theorem truthful_of_incomplete (incomplete : session.record.complete = false) :
    session.Truthful service := by
  intro complete
  rw [incomplete] at complete
  cases complete

/-! ## Checks -/

/-- The check of the stage that a session is on leaves a record that speaks for the
criterion. -/
theorem truthful_check (session : Session) : (session.check service).Truthful service := by
  unfold check
  split
  · rename_i onRepository
    rcases session.checkRepository_cases service with
      ⟨_, checked⟩ | ⟨identified, messages, checked⟩
    · rw [checked]
      exact truthful_of_incomplete rfl
    · rw [checked]
      intro affirmed
      rw [settle_complete] at affirmed
      rw [settle_stage, asking, onRepository, Meets, settle_answers, settle_asked]
      exact ⟨identified, .of_affirms affirmed⟩
  · rename_i onBuild
    rw [checkBuild_eq]
    intro complete
    rw [settle_complete] at complete
    rw [settle_stage, onBuild, Meets, settle_answers]
    exact complete
  · rename_i onTests
    rw [checkTests_eq]
    intro complete
    rw [settle_complete, Bool.not_eq_true', List.isEmpty_eq_false_iff] at complete
    rw [settle_stage, onTests, Meets, settle_answers]
    exact complete
  · rename_i onVerify
    rcases session.checkVerify_cases service with
      ⟨_, _, checked⟩ | ⟨submittable, messages, checked⟩
    · rw [checked]
      exact truthful_of_incomplete rfl
    · rw [checked]
      intro affirmed
      rw [settle_complete] at affirmed
      rw [settle_stage, asking, onVerify, Meets, settle_answers, settle_asked]
      exact ⟨submittable, .of_affirms affirmed⟩

/-- A stage that is entered is checked. -/
theorem truthful_enter (session : Session) (stage : Stage) :
    (session.enter service stage).Truthful service :=
  truthful_check { session with stage, record := .fresh stage }

/-- The check of the last stage has the document validated, if it can be submitted. -/
theorem upToDate_check (session : Session) : (session.check service).UpToDate := by
  intro onVerify submittable
  rw [check_stage] at onVerify
  have isVerify : session.check service = session.checkVerify service := by
    unfold check
    rw [onVerify]
  rw [isVerify] at submittable ⊢
  rcases session.checkVerify_cases service with ⟨_, refused, checked⟩ | ⟨_, messages, checked⟩
  · rw [checked] at submittable
    cases refused.symm.trans submittable
  · rw [checked, settle_answers, settle_asked]
    exact ⟨_, .of_last⟩

/-- On the last stage, to enter it is to have the document validated. -/
theorem upToDate_enter (session : Session) (stage : Stage) :
    (session.enter service stage).UpToDate :=
  upToDate_check { session with stage, record := .fresh stage }

/-! ## Operations that end with a check -/

/-- What an atomic change leaves when it is made is what comes of it. -/
theorem exists_of_attempt {ε : Type} {change : InPlace ε Session Unit} (atomic : change.IsAtomic)
    (made : (session.attempt change).2 = true) :
    ∃ after, change.apply session = .ok after ∧ (session.attempt change).1 = after := by
  rcases attempt_cases atomic session with ⟨after, applied, attempted⟩ | ⟨_, _, attempted⟩
  · exact ⟨after, applied, congrArg Prod.fst attempted⟩
  · rw [attempted] at made
    cases made

/-- An edit that is made ends with a check. -/
theorem exists_check_of_dispatch {edit : Edit} {after : Session}
    (dispatched : session.dispatch service edit = .ok after) :
    ∃ unchecked : Session, after = unchecked.check service := by
  rw [dispatch_eq] at dispatched
  obtain ⟨answers, _, rfl⟩ := map_eq_ok_iff.mp dispatched
  exact ⟨_, rfl⟩

/-- An addition that is made on its own stage ends with the check of that stage. -/
theorem exists_check_of_addition {addition : Addition} (atHome : session.stage = addition.home)
    (made : (session.attemptAddition service addition).2 = true) :
    ∃ unchecked : Session,
      (session.attemptAddition service addition).1 = unchecked.check service := by
  unfold attemptAddition at made ⊢
  rcases session.commit_cases service addition.edit addition.scope addition.extra with
    ⟨_, _, committed⟩ | ⟨candidate, _, ⟨_, committed⟩ | ⟨_, _, committed⟩⟩
  · rw [committed] at made
    cases made
  · rw [committed]
    exact ⟨_, Addition.check_eq service atHome⟩
  · rw [committed] at made
    cases made

/-- Where an operation is said to end with a check, it does. -/
theorem exists_check_of_settles {operation : Operation}
    (settles : session.settles service operation = true) :
    ∃ unchecked : Session, (session.perform service operation).1 = unchecked.check service := by
  obtain ⟨made, rechecks⟩ := (Bool.and_eq_true _ _).mp settles
  cases operation with
  | dispatch edit =>
      obtain ⟨after, dispatched, isAfter⟩ := exists_of_attempt (isAtomic_dispatch service edit) made
      exact isAfter ▸ exists_check_of_dispatch dispatched
  | set path text =>
      obtain ⟨after, assigned, isAfter⟩ := exists_of_attempt (isAtomic_set service path text) made
      refine isAfter ▸ ?_
      change session.set service path text = .ok after at assigned
      simp only [Operation.rechecks] at rechecks
      rw [set_eq_of_assignment] at assigned
      split at rechecks
      · rename_i edit isEdit
        rw [isEdit] at assigned
        exact exists_check_of_dispatch assigned
      · cases rechecks
  | next =>
      obtain ⟨after, advanced, isAfter⟩ := exists_of_attempt (isAtomic_next service) made
      obtain ⟨stage, isNext⟩ := Option.isSome_iff_exists.mp rechecks
      change session.next service = .ok after at advanced
      rw [next_eq, isNext] at advanced
      split at advanced
      · cases advanced
        exact ⟨_, isAfter⟩
      · cases advanced
  | back =>
      obtain ⟨stage, isPrevious⟩ := Option.isSome_iff_exists.mp rechecks
      change ∃ unchecked : Session, session.back service = unchecked.check service
      unfold back
      rw [isPrevious]
      exact ⟨_, rfl⟩
  | check => exact ⟨session, rfl⟩
  | addImage image =>
      have atHome : session.stage = (Addition.ofImage image).home := eq_of_beq rechecks
      exact exists_check_of_addition atHome made
  | addSubstitution substitution =>
      have atHome : session.stage = (Addition.ofSubstitution substitution).home :=
        eq_of_beq rechecks
      exact exists_check_of_addition atHome made
  | addTest test =>
      have atHome : session.stage = (Addition.ofTest test).home := eq_of_beq rechecks
      exact exists_check_of_addition atHome made
  | updateTest name test =>
      change (session.updateTest service name test).2 = true at made
      change ∃ unchecked : Session, (session.updateTest service name test).1 = _
      cases found : session.answers.findTest? name with
      | none =>
          rw [updateTest_of_absent found] at made
          cases made
      | some index =>
          have atHome : session.stage = (Addition.ofReplacement index test).home :=
            eq_of_beq rechecks
          rw [updateTest_of_found found] at made ⊢
          exact exists_check_of_addition atHome made
  | preview => cases rechecks
  | generate pullRequest => cases rechecks

/-- After an operation that ends with a check, the record speaks for the criterion. -/
theorem truthful_of_settles {operation : Operation}
    (settles : session.settles service operation = true) :
    (session.perform service operation).1.Truthful service := by
  obtain ⟨unchecked, checked⟩ := exists_check_of_settles settles
  exact checked ▸ truthful_check unchecked

/-- After an operation that ends with a check, the document is up to date. -/
theorem upToDate_of_settles {operation : Operation}
    (settles : session.settles service operation = true) :
    (session.perform service operation).1.UpToDate := by
  obtain ⟨unchecked, checked⟩ := exists_check_of_settles settles
  exact checked ▸ upToDate_check unchecked

/-! ## Operations that leave a criterion as it was -/

/-- Nothing that a stage before the last asks for is lost between two sets of answers. -/
structure KeepsCriteria (before after : Answers) : Prop where
  identified : after.isIdentified = before.isIdentified
  lookup : lookupCall after = lookupCall before
  built : after.build.isComplete = before.build.isComplete
  tested : before.tests ≠ [] → after.tests ≠ []

/-- Additions take nothing away that a stage before the last asks for. -/
theorem keepsCriteria_of_addition {operation : Operation} {addition : Addition}
    {answers after : Answers} (isAddition : operation.addition? answers = some addition)
    (applied : addition.edit.apply answers = .ok after) : KeepsCriteria answers after := by
  cases operation with
  | addImage image =>
      cases isAddition
      obtain ⟨_, _, rfl⟩ := Edit.apply_addImage_iff.mp applied
      exact ⟨rfl, rfl, rfl, id⟩
  | addSubstitution substitution =>
      cases isAddition
      obtain ⟨_, _, rfl⟩ := Edit.apply_addSubstitution_iff.mp applied
      exact ⟨rfl, rfl, rfl, id⟩
  | addTest test =>
      cases isAddition
      obtain ⟨_, _, rfl⟩ := Edit.apply_addTest_iff.mp applied
      exact ⟨rfl, rfl, rfl, fun _ => List.append_ne_nil_of_right_ne_nil _ (List.cons_ne_nil _ _)⟩
  | updateTest name test =>
      obtain ⟨index, _, rfl⟩ := Option.map_eq_some_iff.mp isAddition
      obtain ⟨inside, _, _, rfl⟩ := Edit.apply_replaceTest_iff.mp applied
      have notEmpty : 0 < (answers.tests.set index test).length := by
        rw [List.length_set]
        exact Nat.zero_lt_of_lt inside
      exact ⟨rfl, rfl, rfl, fun _ => List.ne_nil_of_length_pos notEmpty⟩
  | _ => cases isAddition

/-- The record has no part in a criterion. -/
theorem meets_settle {affirmed : Bool} {messages : List String} {stage : Stage} :
    (session.settle affirmed messages).Meets service stage ↔ session.Meets service stage := by
  cases affirmed <;> exact Iff.rfl

/-- A call that is neither a lookup nor, on the verify stage, the validation of a whole
document changes nothing about a criterion. -/
theorem Meets.asking {stage : Stage} {call : Call} (meets : session.Meets service stage)
    (notLookup : call.isLookup = false)
    (notFull : stage = .verify → call.isFullValidation = false) :
    (session.asking call).Meets service stage := by
  cases stage with
  | repository => exact ⟨meets.1, meets.2.append notLookup⟩
  | build => exact meets
  | tests => exact meets
  | verify => exact ⟨meets.1, meets.2.append (notFull rfl)⟩

/-- Answers that lose nothing may take the place of those for which a criterion of a stage
before the last was met. -/
theorem Meets.replaced {stage : Stage} {candidate : Answers} {record : StageRecord}
    (meets : session.Meets service stage) (notVerify : stage ≠ .verify)
    (kept : KeepsCriteria session.answers candidate) :
    { session with answers := candidate, record }.Meets service stage := by
  cases stage with
  | repository => exact ⟨kept.identified.trans meets.1, kept.lookup ▸ meets.2⟩
  | build => exact kept.built.trans meets
  | tests => exact kept.tested meets
  | verify => exact absurd rfl notVerify

/-- A step that adds and generates nothing leaves the record speaking for the criterion. -/
theorem truthful_plainStep {after : Session} (truthful : session.Truthful service)
    (step : PlainStep service session after) : after.Truthful service :=
  step.keeps truthful_check (fun _ _ kept => kept)
    (fun kept complete => (kept complete).asking rfl fun _ => rfl) truthful

/-- What was validated or generated stands when the service is asked for something else. -/
theorem Sound.asking (sound : session.Sound service) {call : Call}
    (notLookup : call.isLookup = false) (notFull : call.isFullValidation = false) :
    (session.asking call).Sound service := by
  rcases sound with truthful | ⟨onVerify, submittable, pullRequest, latest⟩
  · exact .inl fun complete => (truthful complete).asking notLookup fun _ => notFull
  · exact .inr ⟨onVerify, submittable, pullRequest, latest.append notFull⟩

/-- What was generated stands until the stage is checked again. -/
theorem sound_plainStep {after : Session} (sound : session.Sound service)
    (step : PlainStep service session after) : after.Sound service :=
  step.keeps (fun unchecked => .inl (truthful_check unchecked)) (fun _ _ kept => kept)
    (fun kept => kept.asking rfl rfl) sound

/-- An addition keeps what holds without it, if it is kept where the addition is made: one that
is not made leaves word of a rejection or an incomplete stage. -/
theorem attemptAddition_keeps {kept : Session → Prop} {addition : Addition}
    (rejected : ∀ message, kept (session.reject message))
    (incomplete : ∀ after : Session, after.record.complete = false → kept after)
    (made : (session.attemptAddition service addition).2 = true →
      kept (session.attemptAddition service addition).1) :
    kept (session.attemptAddition service addition).1 := by
  rcases session.attemptAddition_cases service addition with
    ⟨message, attempted⟩ | ⟨_, _, attempted⟩ | ⟨_, _, _, _, attempted⟩
  · rw [attempted]
    exact rejected message
  · rw [attempted]
    exact incomplete _ rfl
  · exact made (by rw [attempted])

/-- On a stage before the last, an addition that is made leaves a criterion that was met so. -/
theorem truthful_of_made {addition : Addition}
    (keeps : ∀ candidate, addition.edit.apply session.answers = .ok candidate →
      KeepsCriteria session.answers candidate)
    (notVerify : session.stage ≠ .verify) (meets : session.Meets service session.stage)
    (made : (session.attemptAddition service addition).2 = true) :
    (session.attemptAddition service addition).1.Truthful service := by
  rcases session.attemptAddition_cases service addition with
    ⟨_, attempted⟩ | ⟨_, _, attempted⟩ | ⟨candidate, _, _, applied, attempted⟩
  · rw [attempted] at made
    cases made
  · rw [attempted] at made
    cases made
  · rw [attempted]
    -- the check after the addition may complete the stage, but it was complete rightly before
    have asked (call : Call) (notLookup : call.isLookup = false) :
        (session.asking call).Meets service session.stage :=
      meets.asking notLookup fun onVerify => absurd onVerify notVerify
    intro _
    rw [settle_stage, meets_settle]
    exact (asked _ rfl).replaced notVerify (keeps candidate applied)

/-! ## Operations that do not overstep -/

/-- If an operation strays without overstepping, the stage is incomplete afterwards, or it was
complete before and is not the last. -/
theorem strayed_cases {operation : Operation} (strays : session.strays service operation = true)
    (within : session.oversteps service operation = false) :
    (session.perform service operation).1.record.complete = false ∨
      session.record.complete = true ∧ session.stage ≠ .verify := by
  unfold oversteps at within
  rw [strays, Bool.true_and, Bool.and_eq_false_iff, Bool.or_eq_false_iff, Bool.not_eq_false',
    beq_eq_false_iff_ne] at within
  exact within

/-- Before the last stage, a complete record that is sound is truthful. -/
theorem Sound.meets (sound : session.Sound service) (complete : session.record.complete = true)
    (notVerify : session.stage ≠ .verify) : session.Meets service session.stage := by
  rcases sound with truthful | ⟨onVerify, _⟩
  · exact truthful complete
  · exact absurd onVerify notVerify

/-- An addition that does not overstep leaves a sound record sound. -/
theorem sound_addition {operation : Operation} {addition : Addition}
    (isAddition : operation.addition? session.answers = some addition)
    (performed : session.perform service operation = session.attemptAddition service addition)
    (sound : session.Sound service) (within : session.oversteps service operation = false) :
    (session.attemptAddition service addition).1.Sound service := by
  refine attemptAddition_keeps (fun _ => sound)
    (fun _ incomplete => .inl (truthful_of_incomplete incomplete)) fun made => .inl ?_
  by_cases atHome : session.stage = addition.home
  · obtain ⟨unchecked, checked⟩ := exists_check_of_addition atHome made
    exact checked ▸ truthful_check unchecked
  · have strays : session.strays service operation = true := by
      rw [Session.strays, performed, made, Operation.belongsTo_of_addition isAddition,
        beq_eq_false_iff_ne.mpr atHome]
      rfl
    rcases strayed_cases strays within with incomplete | ⟨complete, notVerify⟩
    · exact truthful_of_incomplete (performed ▸ incomplete)
    · exact truthful_of_made (fun _ => keepsCriteria_of_addition isAddition) notVerify
        (sound.meets complete notVerify) made

theorem sound_generate {pullRequest : Bool} (sound : session.Sound service)
    (within : session.oversteps service (.generate pullRequest) = false) :
    (session.generate service pullRequest).1.Sound service := by
  have isPerformed : session.perform service (.generate pullRequest) =
      ((session.generate service pullRequest).1,
        (session.generate service pullRequest).2.isSome) := rfl
  rcases session.generate_cases service pullRequest with
    ⟨_, _, generated⟩ | ⟨submittable, ⟨affirmed, _, generated⟩ | ⟨_, generated⟩⟩
  · rw [generated]
    exact .inl (truthful_of_incomplete rfl)
  · rw [generated] at isPerformed ⊢
    by_cases onVerify : session.stage = .verify
    · exact .inr ⟨onVerify, submittable, pullRequest, .of_affirms affirmed⟩
    · have strays : session.strays service (.generate pullRequest) = true := by
        rw [Session.strays, isPerformed, Operation.belongsTo, beq_eq_false_iff_ne.mpr onVerify]
        rfl
      rcases strayed_cases strays within with incomplete | ⟨complete, notVerify⟩
      · rw [isPerformed] at incomplete
        cases incomplete
      · exact .inl fun _ => (sound.meets complete notVerify).asking rfl fun _ => rfl
  · rw [generated]
    exact .inl (truthful_of_incomplete rfl)

/-- An operation that does not overstep leaves a sound record sound. -/
theorem sound_perform (session : Session) (operation : Operation) (sound : session.Sound service)
    (within : session.oversteps service operation = false) :
    (session.perform service operation).1.Sound service := by
  rcases session.perform_cases service operation with
    step | ⟨addition, isAddition, performed⟩ | ⟨pullRequest, rfl⟩
  · exact sound_plainStep sound step
  · rw [performed]
    exact sound_addition isAddition performed sound within
  · exact sound_generate sound within

/-! ## Operations that do not stray -/

/-- A call that does not validate a whole document leaves the latest that does so. -/
theorem UpToDate.asking (upToDate : session.UpToDate) {call : Call}
    (notFull : call.isFullValidation = false) : (session.asking call).UpToDate :=
  fun onVerify submittable =>
    (upToDate onVerify submittable).imp fun _ latest => latest.append notFull

/-- A step that adds and generates nothing leaves the document up to date. -/
theorem upToDate_plainStep {after : Session} (upToDate : session.UpToDate)
    (step : PlainStep service session after) : after.UpToDate :=
  step.keeps upToDate_check (fun _ _ kept => kept) (fun kept => kept.asking rfl) upToDate

/-- An operation that does not stray leaves the document up to date. -/
theorem upToDate_perform (session : Session) (operation : Operation) (upToDate : session.UpToDate)
    (within : session.strays service operation = false) :
    (session.perform service operation).1.UpToDate := by
  rcases session.perform_cases service operation with
    step | ⟨addition, isAddition, performed⟩ | ⟨pullRequest, rfl⟩
  · exact upToDate_plainStep upToDate step
  · rcases session.attemptAddition_cases service addition with
      ⟨_, attempted⟩ | ⟨candidate, _, attempted⟩ | ⟨_, _, _, _, attempted⟩
    · rw [performed, attempted]
      exact upToDate
    · rw [performed, attempted]
      exact upToDate.asking (Operation.isFullValidation_of_addition isAddition _)
    · intro onVerify
      rw [performed, attempted, settle_stage] at onVerify
      rw [strays, performed, attempted, Bool.true_and, Bool.not_eq_false',
        Operation.belongsTo_of_addition isAddition, beq_iff_eq] at within
      exact absurd (within.symm.trans onVerify) addition.home_ne_verify
  · change (session.generate service pullRequest).1.UpToDate
    rcases session.generate_cases service pullRequest with
      ⟨_, _, generated⟩ | ⟨_, ⟨_, _, generated⟩ | ⟨_, generated⟩⟩
    · rw [generated]
      exact upToDate
    · rw [generated]
      exact upToDate.asking rfl
    · rw [generated]
      exact upToDate.asking rfl

/-! ## The stage of the record -/

/-- The record is about the stage that the session is on. -/
def OnRecord (session : Session) : Prop := session.record.stage = session.stage

theorem onRecord_settle {affirmed : Bool} {messages : List String} (onRecord : session.OnRecord) :
    (session.settle affirmed messages).OnRecord := by
  cases affirmed <;> exact onRecord

/-- A check keeps the record on its stage. -/
theorem onRecord_check (onRecord : session.OnRecord) : (session.check service).OnRecord :=
  (session.check_recordStage service).trans (onRecord.trans (session.check_stage service).symm)

/-- To enter a stage puts the record on it. -/
theorem onRecord_enter (session : Session) (stage : Stage) :
    (session.enter service stage).OnRecord := by
  refine onRecord_check ?_
  rfl

/-- A step that adds and generates nothing keeps the record on its stage. -/
theorem onRecord_plainStep {after : Session} (onRecord : session.OnRecord)
    (step : PlainStep service session after) : after.OnRecord := by
  cases step with
  | still => exact onRecord
  | rejected message => exact onRecord
  | checked => exact onRecord_check onRecord
  | entered stage => exact onRecord_enter session stage
  | edited applied => exact onRecord_check onRecord
  | previewed =>
      rcases session.preview_cases service with ⟨_, _, previewed⟩ | ⟨_, previewed⟩
      · rw [previewed]
        exact onRecord
      · rw [previewed]
        exact onRecord

theorem onRecord_attemptAddition (addition : Addition) (onRecord : session.OnRecord) :
    (session.attemptAddition service addition).1.OnRecord := by
  rcases session.attemptAddition_cases service addition with
    ⟨_, attempted⟩ | ⟨_, _, attempted⟩ | ⟨candidate, _, _, _, attempted⟩
  · rw [attempted]
    exact onRecord
  · rw [attempted]
    exact onRecord
  · rw [attempted]
    exact onRecord_settle onRecord

theorem onRecord_generate (pullRequest : Bool) (onRecord : session.OnRecord) :
    (session.generate service pullRequest).1.OnRecord := by
  rcases session.generate_cases service pullRequest with
    ⟨_, _, generated⟩ | ⟨_, ⟨_, _, generated⟩ | ⟨_, generated⟩⟩
  · rw [generated]
    exact onRecord
  · rw [generated]
    exact onRecord
  · rw [generated]
    exact onRecord

/-- Every operation leaves the record on the stage that the session is on. -/
theorem onRecord_perform (session : Session) (operation : Operation)
    (onRecord : session.OnRecord) : (session.perform service operation).1.OnRecord := by
  rcases session.perform_cases service operation with
    step | ⟨addition, _, performed⟩ | ⟨pullRequest, rfl⟩
  · exact onRecord_plainStep onRecord step
  · rw [performed]
    exact onRecord_attemptAddition addition onRecord
  · exact onRecord_generate pullRequest onRecord

/-- A session that goes to the next stage, or stays on the last, has a complete record. -/
theorem complete_of_next {after : Session} (advanced : session.next service = .ok after) :
    session.record.complete = true := by
  rw [next_eq] at advanced
  split at advanced
  · assumption
  · cases advanced

/-- In every state of every run the record is about the stage that the session is on. Unless an
operation has overstepped since the stage was last checked, a stage that is recorded as complete
meets its criterion, or else it is the last one and its pipeline was generated; so no other stage
is left. And unless an operation has strayed since then, the last stage has had the document of
the session validated as a whole later than any other. -/
theorem complete_meets_criterion (service : Service) (answers : Answers) (caller : Caller)
    (operations : List Operation) :
    let opened := start service answers caller
    let session := opened.run service operations
    session.record.stage = session.stage ∧
    (opened.unharmed service (oversteps service) true operations = true →
      (session.record.complete = true →
        session.Meets service session.stage ∨ session.Generated service) ∧
      ∀ after, session.next service = .ok after →
        session.Meets service session.stage ∨ session.Generated service) ∧
    (opened.unharmed service (strays service) true operations = true → session.UpToDate) := by
  intro opened session
  have onRecord : opened.OnRecord := onRecord_enter _ _
  have soundAtFirst : opened.Sound service := .inl (truthful_enter _ _)
  have upToDateAtFirst : opened.UpToDate := upToDate_enter _ _
  refine ⟨run_keeps onRecord_perform onRecord operations, fun unharmed => ?_, fun unharmed => ?_⟩
  · have sound : session.Sound service :=
      run_of_unharmed (Sound service) (fun _ _ settles => .inl (truthful_of_settles settles))
        sound_perform (fun _ => soundAtFirst) unharmed
    have meets (complete : session.record.complete = true) :
        session.Meets service session.stage ∨ session.Generated service :=
      sound.imp_left fun truthful => truthful complete
    exact ⟨meets, fun after advanced => meets (complete_of_next advanced)⟩
  · exact run_of_unharmed UpToDate (fun _ _ => upToDate_of_settles) upToDate_perform
      (fun _ => upToDateAtFirst) unharmed

/-- A test that is added on the last stage completes it, though the document was rejected. Once
the stage is checked again this is made good for, and then a generation completes it. -/
theorem complete_meets_criterion_again :
    let service := Service.rejectingAll
    let opened := start service .sample .unknown
    let test := { TestPlan.blank with name := "v", commands := some "m" }
    let overstepped := opened.run service [.next, .next, .next, .addTest test]
    let session := opened.run service [.next, .next, .next, .addTest test, .check, .generate false]
    overstepped.record.complete = true ∧ ¬overstepped.Meets service .verify ∧
      session.record.complete = true ∧ session.Generated service ∧ session.UpToDate := by
  intro service opened test overstepped session
  -- this service affirms no validation of a whole document
  have notMet (other : Session) : ¬other.Meets service .verify := by
    rintro ⟨_, before, _, affirmed⟩
    exact Bool.false_ne_true affirmed
  have onVerify : session.stage = .verify := by decide +kernel
  obtain ⟨_, sound, upToDate⟩ := complete_meets_criterion service .sample .unknown
    [.next, .next, .next, .addTest test, .check, .generate false]
  have generated : session.Generated service := by
    refine ((sound (by decide +kernel)).1 (by decide +kernel)).resolve_left ?_
    change ¬session.Meets service session.stage
    rw [onVerify]
    exact notMet session
  exact ⟨by decide +kernel, notMet overstepped, by decide +kernel, generated,
    upToDate (by decide +kernel)⟩

/-- A test that is added on the repository stage completes it, though no repository is
named; and a generation completes the verify stage, though the document was rejected. -/
theorem complete_without_criterion :
    (let test := { TestPlan.blank with name := "v", commands := some "m" }
      let session := (start .agreeable .blank .unknown).run .agreeable [.addTest test]
      session.stage = .repository ∧ session.record.complete = true ∧
        ¬session.Meets .agreeable .repository) ∧
    (let service := Service.rejectingAll
      let session := (start service .sample .unknown).run service
        [.next, .next, .next, .generate false]
      session.stage = .verify ∧ session.record.complete = true ∧
        ¬session.Meets service .verify) := by
  refine ⟨⟨by decide +kernel, by decide +kernel, ?_⟩, ⟨by decide +kernel, by decide +kernel, ?_⟩⟩
  · intro meets
    exact absurd meets.1 (by decide +kernel)
  · rintro ⟨_, before, _, affirmed⟩
    exact Bool.false_ne_true affirmed

end Session

end Onboarding
