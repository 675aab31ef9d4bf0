import Onboarding.Proofs.Result
import Onboarding.Proofs.Session.Operation
import Onboarding.Session.Walk

/-! # What lasts while answers are worked on

The answers of a session are changed by nothing but accepted edits and the default
branch. So a property that survives these two survives every operation, and with them
every run (`Onboarding.Answers.Lasting.run`), and it holds at the end of a walk if it
holds of the answers the walk starts on (`Onboarding.Answers.Lasting.walkThrough`).
-/

namespace Onboarding

namespace Answers

/-- A property of answers that accepted edits and the default branch leave true. -/
structure Lasting (property : Answers → Prop) : Prop where
  branch : ∀ answers, property answers → property answers.withBranch
  edit : ∀ answers edit after, Edit.apply answers edit = .ok after → property answers →
    property after

namespace Lasting

variable {service : Service} {property : Answers → Prop} (lasting : Lasting property)
  (session : Session)

include lasting

/-- A check keeps what lasts. -/
theorem check (holds : property session.answers) : property (session.check service).answers := by
  rcases session.check_answers service with same | isDefault
  · rw [same]
    exact holds
  · rw [isDefault]
    exact lasting.branch session.answers holds

theorem enter (holds : property session.answers) (stage : Stage) :
    property (session.enter service stage).answers :=
  lasting.check { session with stage, record := .fresh stage } holds

/-- Every step that adds and generates nothing keeps what lasts. -/
theorem plainStep {after : Session} (holds : property session.answers)
    (step : Session.PlainStep service session after) : property after.answers := by
  cases step with
  | still => exact holds
  | rejected message => exact holds
  | checked => exact lasting.check session holds
  | entered stage => exact lasting.enter session holds stage
  | edited applied => exact lasting.check _ (lasting.edit _ _ _ applied holds)
  | previewed => exact (session.preview_answers service).symm ▸ holds

/-- An addition keeps what lasts, made or not. -/
theorem attemptAddition (holds : property session.answers) (addition : Addition) :
    property (session.attemptAddition service addition).1.answers := by
  rcases session.attemptAddition_cases service addition with
    ⟨_, attempted⟩ | ⟨_, _, attempted⟩ | ⟨candidate, _, _, applied, attempted⟩
  · rw [attempted]
    exact holds
  · rw [attempted]
    exact holds
  · rw [attempted, Session.settle_answers]
    exact lasting.edit session.answers addition.edit candidate applied holds

/-- Every operation leaves a lasting property true. -/
theorem perform (operation : Operation) (holds : property session.answers) :
    property (session.perform service operation).1.answers := by
  rcases session.perform_cases service operation with
    step | ⟨addition, _, performed⟩ | ⟨pullRequest, rfl⟩
  · exact lasting.plainStep session holds step
  · rw [performed]
    exact lasting.attemptAddition session holds addition
  · exact (session.generate_answers service pullRequest).symm ▸ holds

/-- Every run leaves a lasting property true. -/
theorem run (holds : property session.answers) (operations : List Operation) :
    property (session.run service operations).answers :=
  Session.run_keeps (fun session operation => lasting.perform session operation) holds operations

/-! ## Walks -/

omit lasting in

/-- What one addition keeps, adding entries one by one keeps. -/
theorem addAll {α : Type} {add : Session → α → Session × Bool}
    (step : ∀ session entry, property session.answers → property (add session entry).1.answers)
    {entries : List α} {session after : Session} (holds : property session.answers)
    (walked : Session.addAll add entries session = .ok after) : property after.answers := by
  induction entries generalizing session with
  | nil =>
      cases walked
      exact holds
  | cons entry entries ih =>
      have kept := step session entry holds
      rw [Session.addAll] at walked
      rcases result : add session entry with ⟨between, _ | _⟩
      · rw [result] at walked
        cases walked
      · rw [result] at walked kept
        exact ih kept walked

/-- An advance keeps what lasts. -/
theorem advance {after : Session} (holds : property session.answers)
    (advanced : session.advance service = .ok after) : property after.answers := by
  rw [Session.advance_eq] at advanced
  cases result : session.next service with
  | error _ =>
      rw [result] at advanced
      cases advanced
  | ok next =>
      rw [result] at advanced
      cases advanced
      exact lasting.plainStep session holds (Session.plainStep_next result)

/-- A lasting property of the answers a walk starts on holds where it ends well. -/
theorem walkThrough {answers : Answers} {caller : Caller} {after : Session}
    (holds : property answers.seed)
    (walked : Session.walkThrough service answers caller = .ok after) :
    property after.answers := by
  have started : property (Session.start service answers.seed caller).answers :=
    lasting.enter ⟨answers.seed, .repository, .fresh .repository, caller, []⟩ holds .repository
  unfold Session.walkThrough at walked
  obtain ⟨_, advanced, walked⟩ := bind_eq_ok_iff.mp walked
  obtain ⟨_, imagesAdded, walked⟩ := bind_eq_ok_iff.mp walked
  obtain ⟨_, substitutionsAdded, walked⟩ := bind_eq_ok_iff.mp walked
  obtain ⟨_, built, walked⟩ := bind_eq_ok_iff.mp walked
  obtain ⟨_, testsAdded, walked⟩ := bind_eq_ok_iff.mp walked
  obtain ⟨last, verified, walked⟩ := bind_eq_ok_iff.mp walked
  have onBuild := lasting.advance _ started advanced
  have withImages := addAll
    (fun session image holds => lasting.attemptAddition session holds (.ofImage image))
    onBuild imagesAdded
  have withSubstitutions := addAll
    (fun session substitution holds =>
      lasting.attemptAddition session holds (.ofSubstitution substitution))
    withImages substitutionsAdded
  have onTests := lasting.advance _ (lasting.check _ withSubstitutions) built
  have withTests := addAll
    (fun session test holds => lasting.attemptAddition session holds (.ofTest test))
    onTests testsAdded
  have onVerify := lasting.advance _ withTests verified
  split at walked
  · cases walked
    exact onVerify
  · cases walked

/-- The rendering and the generation at the end of a walk leave the answers alone. -/
theorem walk {answers : Answers} {caller : Caller} {pullRequest dryRun : Bool}
    (holds : property answers.seed)
    (walked : (Session.walk service answers caller pullRequest dryRun).2.isOk = true) :
    property (Session.walk service answers caller pullRequest dryRun).1.answers := by
  unfold Session.walk at walked ⊢
  cases result : Session.walkThrough service answers caller with
  | error _ =>
      rw [result] at walked
      cases walked
  | ok session =>
      have reached := lasting.walkThrough holds result
      have shown := session.preview_answers service
      dsimp only
      rcases previewed : session.preview service with ⟨after, _ | rendered⟩
      · rw [previewed] at shown
        exact shown ▸ reached
      · rw [previewed] at shown
        cases dryRun with
        | true => exact shown ▸ reached
        | false =>
            have generated := after.generate_answers service pullRequest
            dsimp only
            rw [if_neg Bool.false_ne_true]
            rcases result : after.generate service pullRequest with ⟨last, _ | identifier⟩
            · rw [result] at generated
              exact generated ▸ shown ▸ reached
            · rw [result] at generated
              exact generated ▸ shown ▸ reached

end Lasting

end Answers

end Onboarding
