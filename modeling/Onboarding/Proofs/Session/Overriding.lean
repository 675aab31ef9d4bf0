import Onboarding.Edit.Assignment
import Onboarding.Proofs.Session.Generation

/-! # Overrides made in a session

Overrides can be applied to answers as they are, or be made in a session, one after the other,
while the session walks through the stages (`Onboarding.Assignment.MadeBy`). The session accepts
exactly the overrides that the plain answers accept and refuses the others for the same reason,
and its answers stay those of the plain application, apart from the branch
(`Onboarding.session_follows_overrides`): on the repository stage a blank branch may have been
replaced by the default one.

An override is accepted or refused whatever the branch is, so the answers of the session may
branch off from the plain ones (`Onboarding.Answers.BranchesOff`): an edit is matched by the same
edit, and a step through the stages by none.
-/

namespace Onboarding

/-- Some operations make the assignments that some overrides stand for, in their order, and
otherwise only walk through the stages. -/
inductive Assignment.MadeBy : List String → List Operation → Prop
  | nil : MadeBy [] []
  | walks {overrides : List String} {operation : Operation} {operations : List Operation}
      (isWalking : operation.isWalking = true) (others : MadeBy overrides operations) :
      MadeBy overrides (operation :: operations)
  | assigns {raw path : String} {value : Option String} {overrides : List String}
      {operations : List Operation} (isSplit : ofText? raw = some ⟨path, value⟩)
      (others : MadeBy overrides operations) :
      MadeBy (raw :: overrides) (.set path value :: operations)

/-- Whether a session accepts every assignment among some operations. -/
def Session.AcceptsAll (service : Service) (session : Session) (operations : List Operation) :
    Prop :=
  ∀ earlier path value later, operations = earlier ++ .set path value :: later →
    ((session.run service earlier).set service path value).isOk = true

namespace Answers

/-- Answers that differ from plain ones in nothing but the branch, and in that only where the
plain branch is blank and the other one is the default. -/
structure BranchesOff (answers plain : Answers) : Prop where
  others : answers = { plain with branch := answers.branch }
  branch : answers.branch = plain.branch ∨
    Text.isBlank plain.branch = true ∧ answers.branch = defaultBranch

/-- What becomes of some answers in an edit, where the same edit of the plain answers is accepted
or refused. -/
inductive Follows : Except EditError Answers → Except EditError Answers → Prop
  | accepted {after plain : Answers} (off : after.BranchesOff plain) : Follows (.ok after) (.ok plain)
  | refused (cause : EditError) : Follows (.error cause) (.error cause)

namespace BranchesOff

variable {answers plain : Answers}

/-- Answers branch off from themselves. -/
theorem refl (answers : Answers) : answers.BranchesOff answers := ⟨rfl, .inl rfl⟩

/-- The default branch may be taken, because it replaces a blank one only. -/
theorem withBranch (off : answers.BranchesOff plain) : answers.withBranch.BranchesOff plain := by
  unfold Answers.withBranch
  split
  · rename_i isDefault
    simp only [Bool.and_eq_true] at isDefault
    obtain ⟨⟨isBlank, _⟩, _⟩ := isDefault
    refine ⟨?_, .inr ⟨?_, rfl⟩⟩
    · rw [off.others]
    · rcases off.branch with same | ⟨plainBlank, _⟩
      · exact same ▸ isBlank
      · exact plainBlank
  · exact off

/-- A change of the build parameters follows itself on both sides. -/
theorem onBuild (off : answers.BranchesOff plain) (change : InPlace EditError BuildPlan Unit) :
    Follows ((Answers.onBuild change).apply answers) ((Answers.onBuild change).apply plain) := by
  have sameBuild : answers.build = plain.build := by rw [off.others]
  rw [Answers.onBuild, InPlace.apply_part, InPlace.apply_part, sameBuild]
  cases change.apply plain.build with
  | error cause => exact .refused cause
  | ok build => exact .accepted ⟨by rw [off.others], off.branch⟩

/-- A change of the tests follows itself on both sides. -/
theorem onTests (off : answers.BranchesOff plain)
    (change : InPlace EditError (List TestPlan) Unit) :
    Follows ((Answers.onTests change).apply answers) ((Answers.onTests change).apply plain) := by
  have sameTests : answers.tests = plain.tests := by rw [off.others]
  rw [Answers.onTests, InPlace.apply_part, InPlace.apply_part, sameTests]
  cases change.apply plain.tests with
  | error cause => exact .refused cause
  | ok tests => exact .accepted ⟨by rw [off.others], off.branch⟩

/-- An edit is accepted or refused whatever the branch is, and changes it only by setting it. -/
theorem apply (off : answers.BranchesOff plain) (edit : Edit) :
    Follows (edit.apply answers) (edit.apply plain) := by
  cases edit with
  | identity field text =>
      cases field with
      | branch => exact .accepted ⟨by rw [off.others]; rfl, .inl rfl⟩
      | org | repo => exact .accepted ⟨by rw [off.others]; rfl, off.branch⟩
  | addTest _ | replaceTest _ _ | removeTest _ => exact off.onTests _
  | enableBundle => exact off.onBuild (BuildPlan.onBundle BundlePlan.enable)
  | disableBundle => exact off.onBuild (BuildPlan.onBundle BundlePlan.disable)
  | _ => exact off.onBuild _

end BranchesOff

end Answers

namespace Session

variable {service : Service} {session : Session} {plain after : Answers} {raw path : String}
  {value : Option String} {overrides : List String} {operation : Operation}
  {operations : List Operation}

/-- All operations are accepted if the first is, and the others after it. -/
theorem acceptsAll_cons
    (first : ∀ path value, operation = .set path value →
      (session.set service path value).isOk = true)
    (others : (session.perform service operation).1.AcceptsAll service operations) :
    session.AcceptsAll service (operation :: operations) := by
  intro earlier path value later isSplit
  cases earlier with
  | nil =>
      obtain ⟨rfl, _⟩ := List.cons.inj isSplit
      exact first path value rfl
  | cons head earlier =>
      obtain ⟨rfl, isRest⟩ := List.cons.inj isSplit
      exact others earlier path value later isRest

/-- A check keeps the answers branching off from the same. -/
theorem branchesOff_check (off : session.answers.BranchesOff plain) :
    (session.check service).answers.BranchesOff plain := by
  rcases session.check_answers service with same | isDefault
  · exact same ▸ off
  · exact isDefault ▸ off.withBranch

/-- A step through the stages takes the branch no further than the default one. -/
theorem branchesOff_walk (service : Service) (off : session.answers.BranchesOff plain)
    (isWalking : operation.isWalking = true) :
    (session.perform service operation).1.answers.BranchesOff plain := by
  refine walk_keeps (·.answers.BranchesOff plain) isWalking off (branchesOff_check off)
    fun stage => ?_
  have offInside : ({ session with stage, record := .fresh stage } : Session).answers.BranchesOff
      plain := off
  exact branchesOff_check offInside

/-- A session makes an assignment exactly if the override is accepted by the plain answers, and
refuses it for the same reason otherwise. -/
theorem set_follows_apply (service : Service) (off : session.answers.BranchesOff plain)
    (isSplit : Assignment.ofText? raw = some ⟨path, value⟩) :
    (∃ assigned after, session.set service path value = .ok assigned ∧
      Assignment.apply plain raw = .ok after ∧ assigned.answers.BranchesOff after) ∨
    ∃ cause, session.set service path value = .error cause ∧
      Assignment.apply plain raw = .error (.edit raw cause) := by
  rw [set_eq_of_assignment, Assignment.apply_eq, isSplit]
  dsimp only
  rcases Edit.ofAssignment path value with cause | (_ | edit)
  · exact .inr ⟨cause, rfl, rfl⟩
  · exact .inl ⟨session, plain, rfl, rfl, off⟩
  · have follows := off.apply edit
    simp only [dispatch_eq]
    generalize edit.apply session.answers = result at follows ⊢
    generalize edit.apply plain = plainResult at follows ⊢
    cases follows with
    | accepted offAfter => exact .inl ⟨_, _, rfl, rfl, branchesOff_check offAfter⟩
    | refused cause => exact .inr ⟨cause, rfl, rfl⟩

/-- Overrides that the plain answers accept are accepted by a session, whatever steps are made
between them. -/
theorem run_follows_applyAll (service : Service) (made : Assignment.MadeBy overrides operations)
    (off : session.answers.BranchesOff plain)
    (applied : Assignment.applyAll plain overrides = (after, none)) :
    (session.run service operations).answers.BranchesOff after ∧
      session.AcceptsAll service operations := by
  induction made generalizing session plain with
  | nil =>
      cases applied
      refine ⟨off, fun earlier path value later isSplit => ?_⟩
      exact absurd isSplit.symm (List.append_ne_nil_of_right_ne_nil _ (List.cons_ne_nil _ _))
  | walks isWalking _ ih =>
      obtain ⟨offAfter, accepts⟩ := ih (branchesOff_walk service off isWalking) applied
      refine ⟨offAfter, acceptsAll_cons ?_ accepts⟩
      rintro path value rfl
      cases isWalking
  | @assigns raw path value _ _ isSplit _ ih =>
      rcases set_follows_apply service off isSplit with
        ⟨assigned, between, isSet, isApplied, offBetween⟩ | ⟨cause, _, refused⟩
      · have isPerformed : session.perform service (.set path value) = (assigned, true) := by
          rw [perform, attempt, InPlace.apply_eq_ok_iff.mp isSet]
        rw [Assignment.applyAll_of_ok isApplied] at applied
        obtain ⟨offAfter, accepts⟩ := ih offBetween applied
        rw [run, isPerformed]
        refine ⟨offAfter, acceptsAll_cons ?_ (isPerformed ▸ accepts)⟩
        rintro _ _ ⟨⟩
        rw [isSet]
        rfl
      · rw [Assignment.applyAll_of_error refused] at applied
        cases applied

end Session

namespace Assignment

variable {plain after : Answers} {raw : String} {overrides : List String} {error : AssignmentError}

/-- An override that is refused as an edit was understood as an assignment. -/
theorem split_of_edit {text : String} {cause : EditError}
    (refused : apply plain raw = .error (.edit text cause)) :
    text = raw ∧ ∃ path value, ofText? raw = some ⟨path, value⟩ := by
  cases isSplit : ofText? raw with
  | none =>
      rw [apply_eq, isSplit] at refused
      cases refused
  | some assignment =>
      obtain ⟨path, value⟩ := assignment
      refine ⟨?_, path, value, rfl⟩
      simp only [apply_eq, isSplit] at refused
      split at refused
      · cases refused
        rfl
      · cases refused
      · rename_i edit _
        generalize edit.apply plain = result at refused
        cases result with
        | error _ =>
            cases refused
            rfl
        | ok _ => cases refused

/-- The overrides before the first that is refused stay applied. -/
theorem exists_refused (failed : applyAll plain overrides = (after, some error)) :
    ∃ done raw rest, overrides = done ++ raw :: rest ∧ applyAll plain done = (after, none) ∧
      apply after raw = .error error := by
  induction overrides generalizing plain with
  | nil => cases failed
  | cons raw rest ih =>
      cases applied : apply plain raw with
      | error cause =>
          rw [applyAll_of_error applied] at failed
          cases failed
          exact ⟨[], raw, rest, rfl, rfl, applied⟩
      | ok between =>
          rw [applyAll_of_ok applied] at failed
          obtain ⟨done, refused, others, rfl, isDone, isRefused⟩ := ih failed
          refine ⟨raw :: done, refused, others, rfl, ?_, isRefused⟩
          rw [applyAll_of_ok applied]
          exact isDone

/-- Every override that is accepted is understood as an assignment. -/
theorem isSome_of_applyAll (applied : applyAll plain overrides = (after, none)) :
    ∀ raw ∈ overrides, (ofText? raw).isSome = true := by
  induction overrides generalizing plain with
  | nil => exact fun _ member => absurd member List.not_mem_nil
  | cons raw rest ih =>
      cases isSplit : ofText? raw with
      | none =>
          have refused : apply plain raw = .error (.noPath raw) := by rw [apply_eq, isSplit]
          rw [applyAll_of_error refused] at applied
          cases applied
      | some assignment =>
          intro other member
          rcases List.mem_cons.mp member with rfl | inRest
          · rw [isSplit]
            rfl
          · cases isApplied : apply plain raw with
            | error _ =>
                rw [applyAll_of_error isApplied] at applied
                cases applied
            | ok between =>
                rw [applyAll_of_ok isApplied] at applied
                exact ih applied other inRest

end Assignment

/-- Overrides that plain answers accept are accepted by a session that makes them in their order,
whatever steps through the stages it makes between them, and its answers end as the plain ones,
apart from a blank branch, for which the default one may stand. Where the plain answers refuse an
override, those before it stay applied; and if it is refused as an edit, the session accepts those
before it as well and refuses it for the same reason. -/
theorem session_follows_overrides (service : Service) (answers : Answers) (caller : Caller)
    (overrides : List String) :
    let opened := Session.start service answers caller
    (∀ after, Assignment.applyAll answers overrides = (after, none) →
      (∀ raw ∈ overrides, (Assignment.ofText? raw).isSome = true) ∧
      ∀ operations, Assignment.MadeBy overrides operations →
        let session := opened.run service operations
        opened.AcceptsAll service operations ∧
        session.answers = { after with branch := session.answers.branch } ∧
        (session.answers.branch = after.branch ∨
          Text.isBlank after.branch = true ∧ session.answers.branch = defaultBranch)) ∧
    ∀ after error, Assignment.applyAll answers overrides = (after, some error) →
      ∃ done raw rest, overrides = done ++ raw :: rest ∧
        Assignment.applyAll answers done = (after, none) ∧
        Assignment.apply after raw = .error error ∧
        ∀ text cause, error = .edit text cause →
          text = raw ∧ ∃ path value, Assignment.ofText? raw = some ⟨path, value⟩ ∧
            ∀ operations, Assignment.MadeBy done operations →
              opened.AcceptsAll service operations ∧
              (opened.run service operations).set service path value = .error cause := by
  intro opened
  have off : opened.answers.BranchesOff answers := Session.branchesOff_check (.refl answers)
  refine ⟨fun after applied => ⟨Assignment.isSome_of_applyAll applied, fun operations made => ?_⟩,
    fun after error failed => ?_⟩
  · obtain ⟨offAfter, accepts⟩ := Session.run_follows_applyAll service made off applied
    exact ⟨accepts, offAfter.others, offAfter.branch⟩
  · obtain ⟨done, raw, rest, isSplit, isDone, refused⟩ := Assignment.exists_refused failed
    refine ⟨done, raw, rest, isSplit, isDone, refused, ?_⟩
    rintro text cause rfl
    obtain ⟨isRaw, path, value, isAssignment⟩ := Assignment.split_of_edit refused
    refine ⟨isRaw, path, value, isAssignment, fun operations made => ?_⟩
    obtain ⟨offAfter, accepts⟩ := Session.run_follows_applyAll service made off isDone
    refine ⟨accepts, ?_⟩
    rcases Session.set_follows_apply service offAfter isAssignment with
      ⟨_, _, _, applied, _⟩ | ⟨_, isSet, refusedSo⟩
    · rw [applied] at refused
      cases refused
    · rw [refusedSo] at refused
      cases refused
      exact isSet

/-- The branch is blanked on the build stage and is the default one when the session is back on
the repository stage, while the plain answers keep it blank; the third override is refused by
both. -/
theorem session_follows_overrides_sample :
    let accepted := [" branch = ", "org=acme"]
    let operations : List Operation :=
      [.next, .set "branch" (some " "), .back, .set "org" (some "acme"), .check]
    let opened := Session.start .agreeable .sample .unknown
    let session := opened.run .agreeable operations
    let after : Answers := { Answers.sample with org := "acme", branch := " " }
    Assignment.applyAll .sample accepted = (after, none) ∧
    Assignment.MadeBy accepted operations ∧
    opened.AcceptsAll .agreeable operations ∧
    session.answers = { after with branch := "master" } ∧
    Assignment.applyAll .sample (accepted ++ ["nope=1"]) =
      (after, some (.edit "nope=1" (.unknownField "nope"))) ∧
    session.set .agreeable "nope" (some "1") = .error (.unknownField "nope") := by
  intro accepted operations opened session after
  have applied : Assignment.applyAll .sample accepted = (after, none) := by decide +kernel
  have failed : Assignment.applyAll .sample (accepted ++ ["nope=1"]) =
      (after, some (.edit "nope=1" (.unknownField "nope"))) := by decide +kernel
  have made : Assignment.MadeBy accepted operations :=
    .walks rfl <| .assigns (by decide +kernel) <| .walks rfl <| .assigns (by decide +kernel) <|
      .walks rfl .nil
  obtain ⟨follows, _⟩ := session_follows_overrides .agreeable .sample .unknown accepted
  obtain ⟨accepts, others, _⟩ := (follows after applied).2 operations made
  have branch : session.answers.branch = "master" := by decide +kernel
  obtain ⟨_, refuses⟩ :=
    session_follows_overrides .agreeable .sample .unknown (accepted ++ ["nope=1"])
  obtain ⟨done, raw, rest, isSplit, _, _, refusesSo⟩ := refuses _ _ failed
  obtain ⟨rfl, path, value, isAssignment, refused⟩ := refusesSo _ _ rfl
  -- the override that is refused is the third, so the session has made the two before it
  have isDone : done = accepted := by
    rcases done with _ | ⟨_, _ | ⟨_, _ | ⟨_, _⟩⟩⟩ <;> simp [accepted] at isSplit ⊢
    exact ⟨isSplit.1.symm, isSplit.2.1.symm⟩
  have isNope : Assignment.ofText? "nope=1" = some ⟨"nope", some "1"⟩ := by decide +kernel
  rw [isNope] at isAssignment
  cases isAssignment
  refine ⟨applied, made, accepts, others.trans (by rw [branch]), failed, ?_⟩
  exact (refused operations (isDone ▸ made)).2

end Onboarding
