import Onboarding.AnswersFile
import Onboarding.CommandLine.Invocation
import Onboarding.Json.Writer
import Onboarding.Session.Walk

/-! # Running a command

A command loads its answers, talks to the service as far as it has to, and yields
the text that is printed, or the reason why there is none. Told with it are the
calls that were made, in order.
-/

namespace Onboarding

open CommandLine (Command Invocation AnswersSource)

/-- Why a command yields no text. -/
inductive RunError where
  | load (error : LoadError)
  | submission (error : SubmissionError)
  | service (error : ServiceError)
  | rejected (rejected : WalkRejected)
  deriving DecidableEq, Repr

/-- What a command does: the calls it made, and its text or the reason for none. -/
structure RunResult where
  asked : List Call
  output : Except RunError String

namespace RunResult

/-- An output for which nobody was asked. -/
def quiet (output : Except RunError String) : RunResult := ⟨[], output⟩

/-- The output of a command that asks once. -/
def single {α : Type} (call : Call) (answer : Except ServiceError α) (print : α → String) :
    RunResult :=
  ⟨[call], (answer.mapError .service).map print⟩

end RunResult

variable (service : Service)

/-- A command on some answers. Only a walk keeps a session; the other commands ask at most
once. -/
def Command.runOn (command : Command) (caller : Caller) (answers : Answers) : RunResult :=
  let document := Document.ofAnswers answers
  match command with
  | .document _ => .quiet (.ok document.toJson.pretty)
  | .validate _ scope =>
    .single (.validate scope document KeyMap.empty)
      (service.validate [] scope document KeyMap.empty) (·.toJson.pretty)
  | .preview _ => .single (.convert document) (service.convert [] document) id
  | .generate _ pullRequest =>
    match answers.submittable with
    | .error error => .quiet (.error (.submission error))
    | .ok () =>
      .single (.generate document caller pullRequest)
        (service.generate [] document caller pullRequest) id
  | .walk _ pullRequest dryRun =>
    let (session, output) := Session.walk service answers caller pullRequest dryRun
    ⟨session.asked, output.mapError .rejected⟩

/-- Where the answers of a command come from. -/
def Command.answers : Command → AnswersSource
  | .document answers | .preview answers => answers
  | .validate answers _ | .generate answers _ => answers
  | .walk answers _ _ => answers

/-- An invocation first loads the answers of its command, and stops where they cannot be
loaded. -/
def Invocation.run (invocation : Invocation) (files : Files) : RunResult :=
  let source := Command.answers invocation.command
  match AnswersFile.load files source.file source.assignments with
  | .error error => .quiet (.error (.load error))
  | .ok answers => Command.runOn service invocation.command invocation.caller answers

end Onboarding
