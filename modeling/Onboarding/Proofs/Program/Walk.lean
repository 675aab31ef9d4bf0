import Onboarding.Program
import Onboarding.Proofs.Session.Walking

/-! # Walks from the command line

A walk that is run from the command line asks the service for what its itinerary lays
out, in that order, and for nothing else. It stops behind the first call that is not
answered in the way that lets things go on, or at the first condition that the answers do
not meet; it yields a text exactly if it gets past all of them.
-/

namespace Onboarding

open CommandLine (AnswersSource)

section Loaded

variable {service : Service} {files : Files} {address : String} {caller : Caller}
  {source : AnswersSource} {pullRequest dryRun : Bool}

/-- Loaded answers are walked through a session. -/
theorem Invocation.run_walk_of_ok {answers : Answers}
    (loaded : AnswersFile.load files source.file source.assignments = .ok answers) :
    Invocation.run service ⟨address, caller, .walk source pullRequest dryRun⟩ files =
      let told := Session.walk service answers caller pullRequest dryRun
      ⟨told.1.asked, told.2.mapError .rejected⟩ := by
  simp only [run, Command.answers, loaded, Command.runOn]

/-- A command yields a text exactly if its walk does. -/
theorem Invocation.isOk_run_walk {answers : Answers}
    (loaded : AnswersFile.load files source.file source.assignments = .ok answers) :
    (Invocation.run service ⟨address, caller, .walk source pullRequest dryRun⟩ files).output.isOk =
      (Session.walk service answers caller pullRequest dryRun).2.isOk := by
  rw [run_walk_of_ok loaded]
  dsimp only
  cases (Session.walk service answers caller pullRequest dryRun).2 <;> rfl

end Loaded

end Onboarding
