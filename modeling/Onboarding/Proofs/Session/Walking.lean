import Onboarding.Proofs.Session.Changing
import Onboarding.Proofs.Session.Itinerary

/-! # Walking along the itinerary

A walk is put together from parts, each of which keeps to a stretch of the itinerary: from
a session that stands on one stage with some answers it makes the calls that travelling
makes, and comes to a session that stands on the next with the answers that are due there
(`Onboarding.Session.Keeps`). Parts that follow one another keep to both stretches
(`Onboarding.Session.Keeps.bind`).

So a walk travels along its itinerary (`Onboarding.Session.walk_travels`): it has an
outcome exactly if the end is reached, and then its answers are those it began with, with
the default branch.
-/

namespace Onboarding

namespace Session

variable {service : Service} {milestones others : List Milestone}
  {here middle there : Session → Prop}

/-- A walk comes to what travelling comes to: the calls made are the same, and where
travelling reaches the end the walk goes on, in a session of some kind. -/
def ComesTo (service : Service) (asked : List Call) (milestones : List Milestone)
    (there : Session → Prop) : Walk → Prop
  | .ok after => Milestone.travel service asked milestones = (after.asked, true) ∧ there after
  | .error ended => Milestone.travel service asked milestones = (ended.asked, false)

theorem comesTo_ok {asked : List Call} {after : Session} :
    ComesTo service asked milestones there (.ok after) ↔
      Milestone.travel service asked milestones = (after.asked, true) ∧ there after := Iff.rfl

theorem comesTo_error {asked : List Call} {ended : Session} :
    ComesTo service asked milestones there (.error ended) ↔
      Milestone.travel service asked milestones = (ended.asked, false) := Iff.rfl

/-- A part of a walk keeps to some milestones, from a session of one kind to a session of
another. -/
def Keeps (service : Service) (milestones : List Milestone) (part : Session → Walk)
    (here there : Session → Prop) : Prop :=
  ∀ session, here session → ComesTo service session.asked milestones there (part session)

/-- Two parts of a walk, one after the other, keep to the milestones of both. -/
theorem Keeps.bind {part onward : Session → Walk}
    (first : Keeps service milestones part here middle)
    (second : Keeps service others onward middle there) :
    Keeps service (milestones ++ others) (fun session => part session >>= onward) here there := by
  intro session isHere
  have travelled := first session isHere
  change ComesTo service session.asked (milestones ++ others) there (part session >>= onward)
  cases result : part session with
  | error ended =>
      rw [result] at travelled
      exact Milestone.travel_append_of_stopped others travelled
  | ok between =>
      rw [result] at travelled
      obtain ⟨reached, isMiddle⟩ := travelled
      have travelledOn := second between isMiddle
      change ComesTo service session.asked (milestones ++ others) there (onward between)
      unfold ComesTo at travelledOn ⊢
      rw [Milestone.travel_append others reached]
      exact travelledOn

/-- A session on a stage, with some answers, that can or cannot leave it. -/
structure StandsAt (answers : Answers) (caller : Caller) (stage : Stage) (complete : Bool)
    (session : Session) : Prop where
  answers : session.answers = answers
  caller : session.caller = caller
  stage : session.stage = stage
  complete : session.record.complete = complete

/-- From a complete stage an advance leads to the next. -/
theorem advance_of_complete {session : Session} {stage : Stage}
    (complete : session.record.complete = true) (isNext : session.stage.next? = some stage) :
    session.advance service = .ok (session.enter service stage) := by
  rw [advance_eq, next_eq, if_pos complete, isNext]
  rfl

/-- From a stage that is not complete there is no advance. -/
theorem advance_of_incomplete {session : Session} (incomplete : session.record.complete = false) :
    session.advance service = .error session := by
  rw [advance_eq, next_eq, incomplete, if_neg Bool.false_ne_true]
  rfl

/-- The build stage is entered without a call. -/
theorem standsAt_enter_build (service : Service) (session : Session) :
    (session.enter service .build).asked = session.asked ∧
      StandsAt session.answers session.caller .build session.answers.build.isComplete
        (session.enter service .build) := by
  rw [enter, check, checkBuild_eq]
  refine ⟨?_, ?_, ?_, ?_, ?_⟩ <;> simp

/-- The tests stage is entered without a call. -/
theorem standsAt_enter_tests (service : Service) (session : Session) :
    (session.enter service .tests).asked = session.asked ∧
      StandsAt session.answers session.caller .tests (!session.answers.tests.isEmpty)
        (session.enter service .tests) := by
  rw [enter, check, checkTests_eq]
  refine ⟨?_, ?_, ?_, ?_, ?_⟩ <;> simp

section Additions

variable {α : Type} {add : Session → α → Session × Bool} {edit : α → Edit} {scope : Scope}
  {extra : α → Extra} {check : Session → Session} {state : Nat → Answers} {caller : Caller}
  {stage : Stage} (standing : Answers → Bool) {messages : List String}

/-- An addition gets past the edit and its validation. -/
theorem keeps_addition {index : Nat} {entry : α}
    (isAddition : ∀ session, add session entry =
      followedBy check (session.commit service (edit entry) scope (extra entry)))
    (settles : ∀ session, check session = session.settle (standing session.answers) messages)
    (lengthens : ∀ after, (edit entry).apply (state index) = .ok after →
      after = state (index + 1)) :
    Keeps service
      [.condition ((edit entry).apply (state index)).isOk,
        .call (.validate scope (Document.ofAnswers (state (index + 1))) (extra entry))]
      (fun session => added (add session entry))
      (StandsAt (state index) caller stage (standing (state index)))
      (StandsAt (state (index + 1)) caller stage (standing (state (index + 1)))) := by
  intro session stands
  change ComesTo service session.asked _ _ (added (add session entry))
  rw [isAddition]
  have committed := session.commit_cases service (edit entry) scope (extra entry)
  rw [stands.answers] at committed
  rcases committed with ⟨error, refused, committed⟩ |
    ⟨candidate, applied, ⟨affirmed, committed⟩ | ⟨notAffirmed, messages, committed⟩⟩
  · rw [committed, refused]
    rfl
  · obtain rfl := lengthens candidate applied
    have isOk : ((edit entry).apply (state index)).isOk = true := by rw [applied]; rfl
    rw [committed, isOk]
    simp only [followedBy, added, settles, comesTo_ok]
    refine ⟨?_, ?_, ?_, ?_, ?_⟩
    · rw [settle_asked, Milestone.travel_met, Milestone.travel_affirmed affirmed]
      rfl
    · rw [settle_answers]
    · rw [settle_caller]
      exact stands.caller
    · rw [settle_stage]
      exact stands.stage
    · rw [settle_complete]
  · obtain rfl := lengthens candidate applied
    have isOk : ((edit entry).apply (state index)).isOk = true := by rw [applied]; rfl
    rw [committed, isOk]
    simp only [followedBy, added, comesTo_error]
    rw [Milestone.travel_met, Milestone.travel_refused notAffirmed]
    rfl

/-- Adding the last entries of a list one by one gets past all of them, in order. -/
theorem keeps_addAll {entries : List α}
    (isAddition : ∀ session entry, add session entry =
      followedBy check (session.commit service (edit entry) scope (extra entry)))
    (settles : ∀ session, check session = session.settle (standing session.answers) messages)
    (lengthens : ∀ index entry after, entries[index]? = some entry →
      (edit entry).apply (state index) = .ok after → after = state (index + 1))
    {earlier later : List α} (isSplit : entries = earlier ++ later) :
    Keeps service (Answers.additions edit scope extra state (later.zipIdx earlier.length))
      (addAll add later)
      (StandsAt (state earlier.length) caller stage (standing (state earlier.length)))
      (StandsAt (state entries.length) caller stage (standing (state entries.length))) := by
  -- on the entries still to be added; how many there were before tells the state
  induction later generalizing earlier with
  | nil =>
      rw [List.append_nil] at isSplit
      subst isSplit
      exact fun _ stands => ⟨rfl, stands⟩
  | cons entry later ih =>
      have isNext : entries[earlier.length]? = some entry := by
        rw [isSplit, List.getElem?_append_right (Nat.le_refl _), Nat.sub_self]
        rfl
      have first : Keeps service _ _
          (StandsAt (state earlier.length) caller stage (standing (state earlier.length))) _ :=
        keeps_addition standing (isAddition · entry) settles
          fun after applied => lengthens earlier.length entry after isNext applied
      have isSplitBehind : entries = (earlier ++ [entry]) ++ later := by
        rw [isSplit, List.append_assoc]
        rfl
      have others := ih isSplitBehind
      rw [List.length_append, List.length_singleton] at others
      have isBind : addAll add (entry :: later) =
          fun session => added (add session entry) >>= addAll add later := by
        funext session
        rw [addAll]
        cases added (add session entry) <;> rfl
      rw [isBind]
      exact first.bind others

end Additions

section Stages

variable {answers : Answers} {caller : Caller}

/-- The repository stage is left when no configuration is found for an identified
repository. -/
theorem keeps_repository :
    Keeps service
      [.condition answers.withBranch.isIdentified, .call (lookupCall answers.withBranch)]
      (fun session => (session.enter service .repository).advance service)
      (fun session => session.answers = answers.seed ∧ session.caller = caller)
      (StandsAt (answers.withBranch.withFirstImages 0) caller .build
        (answers.withBranch.withFirstImages 0).build.isComplete) := by
  rintro session ⟨isSeed, rfl⟩
  let opening := { session with stage := .repository, record := .fresh .repository }
  change ComesTo service session.asked _ _ ((opening.checkRepository service).advance service)
  have seeded : opening.answers.withBranch = answers.withBranch.withFirstImages 0 := by
    change session.answers.withBranch = _
    rw [isSeed, ← Answers.cut_zero, Answers.withBranch_cut, Answers.withFirstImages]
  rcases opening.checkRepository_cases service with
    ⟨unidentified, checked⟩ | ⟨identified, messages, checked⟩
  · rw [seeded, Answers.withFirstImages, Answers.isIdentified_cut] at unidentified
    rw [checked, unidentified, advance_of_incomplete rfl, comesTo_error]
    rfl
  · rw [seeded, Answers.withFirstImages, Answers.isIdentified_cut] at identified
    rw [seeded] at checked
    let looked := { opening with answers := answers.withBranch.withFirstImages 0 }.asking
      (lookupCall answers.withBranch)
    -- the names that are looked up stay the same when the lists are set aside
    replace checked : opening.checkRepository service = looked.settle
        (service.affirms session.asked (lookupCall answers.withBranch)) messages := checked
    rw [checked, identified]
    cases affirmed : service.affirms session.asked (lookupCall answers.withBranch) with
    | false =>
        rw [advance_of_incomplete (settle_complete ..), comesTo_error, settle_asked,
          Milestone.travel_met, Milestone.travel_refused affirmed]
        rfl
    | true =>
        have isNext : (looked.settle true messages).stage.next? = some .build := by
          rw [settle_stage]
          rfl
        obtain ⟨asked, stands⟩ := standsAt_enter_build service (looked.settle true messages)
        rw [settle_asked] at asked
        rw [settle_answers, settle_caller] at stands
        rw [advance_of_complete (settle_complete ..) isNext, comesTo_ok, asked,
          Milestone.travel_met, Milestone.travel_affirmed affirmed]
        exact ⟨rfl, stands⟩

/-- The way over the build stage has one milestone, a condition. -/
theorem keeps_build :
    Keeps service [.condition answers.build.isComplete]
      (fun session => (session.check service).advance service)
      (StandsAt answers caller .build answers.build.isComplete)
      (StandsAt answers caller .tests (!answers.tests.isEmpty)) := by
  intro session stands
  change ComesTo service session.asked _ _ ((session.check service).advance service)
  have checked : session.check service =
      session.settle answers.build.isComplete [Notice.buildIncomplete.text] := by
    rw [check, stands.stage, ← stands.answers]
    exact session.checkBuild_eq
  rw [checked]
  cases complete : answers.build.isComplete with
  | false =>
      rw [advance_of_incomplete (settle_complete ..), comesTo_error, settle_asked]
      rfl
  | true =>
      have isNext : (session.settle true [Notice.buildIncomplete.text]).stage.next? =
          some .tests := by
        rw [settle_stage, stands.stage]
        rfl
      rw [advance_of_complete (settle_complete ..) isNext, comesTo_ok]
      have entered := standsAt_enter_tests service
        (session.settle true [Notice.buildIncomplete.text])
      rw [settle_answers, settle_caller, settle_asked, stands.answers, stands.caller] at entered
      rw [entered.1, Milestone.travel_met]
      exact ⟨rfl, entered.2⟩

/-- The verify stage is reached with a test, and completed by a validation of the whole
document. -/
theorem keeps_verify :
    Keeps service
      [.condition !answers.tests.isEmpty, .condition answers.submittable.isOk,
        .call (fullValidation answers)]
      (fun session => session.advance service >>= fun session =>
        if session.record.complete then return session else throw session)
      (StandsAt answers caller .tests (!answers.tests.isEmpty))
      (StandsAt answers caller .verify true) := by
  intro session stands
  have isNext : session.stage.next? = some .verify := by
    rw [stands.stage]
    rfl
  have standing := stands.complete
  let opening := { session with stage := .verify, record := .fresh .verify }
  cases complete : !answers.tests.isEmpty with
  | false =>
      rw [complete] at standing
      change ComesTo service session.asked _ _ (session.advance service >>= _)
      rw [advance_of_incomplete standing]
      rfl
  | true =>
      rw [complete] at standing
      change ComesTo service session.asked _ _ (session.advance service >>= _)
      rw [advance_of_complete standing isNext]
      change ComesTo service session.asked _ _
        (if (opening.checkVerify service).record.complete then .ok (opening.checkVerify service)
          else .error (opening.checkVerify service))
      have isAnswers : opening.answers = answers := stands.answers
      rcases opening.checkVerify_cases service with
        ⟨error, refused, checked⟩ | ⟨submittable, messages, checked⟩
      · rw [isAnswers] at refused
        rw [checked, refused]
        rfl
      · rw [isAnswers] at submittable checked
        have isOk : answers.submittable.isOk = true := by rw [submittable]; rfl
        rw [checked, settle_complete, isOk]
        cases affirmed : service.affirms opening.asked (fullValidation answers) with
        | false =>
            rw [if_neg Bool.false_ne_true, comesTo_error, settle_asked, Milestone.travel_met,
              Milestone.travel_met, Milestone.travel_refused affirmed]
            rfl
        | true =>
            rw [if_pos rfl, comesTo_ok, settle_asked, Milestone.travel_met, Milestone.travel_met,
              Milestone.travel_affirmed affirmed]
            refine ⟨rfl, ?_, ?_, ?_, settle_complete ..⟩
            · rw [settle_answers]
              exact isAnswers
            · rw [settle_caller]
              exact stands.caller
            · rw [settle_stage]
              rfl

/-- A walk to the end of the verify stage keeps to what the answers lay out. -/
theorem walkThrough_comesTo (service : Service) (answers : Answers) (caller : Caller) :
    ComesTo service [] answers.withBranch.stages
      (StandsAt answers.withBranch caller .verify true)
      (walkThrough service answers caller) := by
  let settled := answers.withBranch
  have images : Keeps service _ (addAll (addImage service) settled.build.baseImages)
      (StandsAt (settled.withFirstImages 0) caller .build _)
      (StandsAt (settled.withFirstSubstitutions 0) caller .build _) :=
    keeps_addAll (·.build.isComplete) (fun _ _ => rfl) checkBuild_eq
      (fun _ _ _ => Answers.apply_addImage_cut) (List.nil_append _).symm
  have substitutions : Keeps service _ (addAll (addSubstitution service) settled.substitutions)
      (StandsAt (settled.withFirstSubstitutions 0) caller .build _)
      (StandsAt (settled.withFirstTests 0) caller .build _) :=
    keeps_addAll (·.build.isComplete) (fun _ _ => rfl) checkBuild_eq
      (fun _ _ _ => Answers.apply_addSubstitution_cut) (List.nil_append _).symm
  have tests : Keeps service _ (addAll (addTest service) settled.tests)
      (StandsAt (settled.withFirstTests 0) caller .tests _)
      (StandsAt (settled.withFirstTests settled.tests.length) caller .tests _) :=
    keeps_addAll (!·.tests.isEmpty) (fun _ _ => rfl) checkTests_eq
      (fun _ _ _ => Answers.apply_addTest_cut) (List.nil_append _).symm
  rw [Answers.withFirstTests_length] at tests
  have whole := keeps_repository.bind <| images.bind <| substitutions.bind <|
    keeps_build.bind <| tests.bind keeps_verify
  unfold walkThrough
  rw [← answers.withBranch_build, ← answers.withBranch_substitutions, ← answers.withBranch_tests]
  exact whole ⟨answers.seed, .repository, .fresh .repository, caller, []⟩ ⟨rfl, rfl⟩

/-- A walk travels along its itinerary, and ends with the answers it began with. -/
theorem walk_travels (service : Service) (answers : Answers) (caller : Caller)
    (pullRequest dryRun : Bool) :
    let told := walk service answers caller pullRequest dryRun
    Milestone.travel service [] (answers.itinerary caller pullRequest dryRun) =
        (told.1.asked, told.2.isOk) ∧
      (told.2.isOk = true → told.1.answers = answers.withBranch) := by
  have through := walkThrough_comesTo service answers caller
  unfold walk Answers.itinerary
  cases result : walkThrough service answers caller with
  | error ended =>
      rw [result, comesTo_error] at through
      exact ⟨Milestone.travel_append_of_stopped _ through,
        fun whole => absurd whole Bool.false_ne_true⟩
  | ok session =>
      rw [result, comesTo_ok] at through
      obtain ⟨reached, isAnswers, isCaller, _, _⟩ := through
      have submittable : answers.withBranch.submittable.isOk = true :=
        Milestone.isMet_of_reached reached _ (Answers.submittable_mem_stages _)
      rw [← isAnswers] at submittable reached ⊢
      have isDocument : Document.ofAnswers session.answers = session.document := rfl
      dsimp only
      rw [← isCaller, isDocument, Milestone.travel_append _ reached]
      rcases session.preview_cases service with
        ⟨affirmed, rendered, previewed⟩ | ⟨refused, previewed⟩
      · rw [previewed, Milestone.travel_affirmed affirmed]
        cases dryRun with
        | true => exact ⟨rfl, fun _ => rfl⟩
        | false =>
            rcases (session.asking (.convert session.document)).generate_cases service pullRequest
              with
              ⟨error, refused, _⟩ | ⟨_, ⟨affirmed, identifier, generated⟩ | ⟨refused, generated⟩⟩
            · rw [asking] at refused
              rw [refused] at submittable
              cases submittable
            · dsimp only
              rw [if_neg Bool.false_ne_true, if_neg Bool.false_ne_true, generated]
              refine ⟨?_, fun _ => rfl⟩
              exact Milestone.travel_affirmed affirmed
            · dsimp only
              rw [if_neg Bool.false_ne_true, if_neg Bool.false_ne_true, generated]
              exact ⟨Milestone.travel_refused refused,
                fun whole => absurd whole Bool.false_ne_true⟩
      · rw [previewed, Milestone.travel_refused refused]
        exact ⟨rfl, fun whole => absurd whole Bool.false_ne_true⟩

end Stages

end Session

end Onboarding
