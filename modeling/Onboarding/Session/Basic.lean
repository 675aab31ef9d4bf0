import Onboarding.Document.OfAnswers
import Onboarding.Edit.FieldPath
import Onboarding.Service
import Onboarding.Stage

/-! # Sessions

A session walks one repository through the stages. It holds the answers so far,
the stage it is on, a record of where that stage stands, the caller, and the calls it
has made. Every stage has a check of its own, which decides whether the stage may be
left:

* on the repository stage the repository is identified, and the service knows no
  configuration for it;
* on the build stage the build plan is complete;
* on the tests stage there is a test;
* on the verify stage the answers can be submitted and the service accepts their
  document.

Entries of lists are added through the service: the edit is made on a copy of the
answers, the service validates the document of the copy, and only if it accepts
the copy takes the place of the answers. Each operation makes at most one call.
-/

namespace Onboarding

/-- What the user may be told about a stage. -/
inductive Notice where
  | serviceUnavailable
  | configurationExists
  | lookupFailed
  | buildIncomplete
  | noTests
  deriving DecidableEq, Repr

/-- The text of a notice. -/
def Notice.text : Notice → String
  | serviceUnavailable => "An error occurred while contacting the configuration service."
  | configurationExists =>
    "It looks like there's already a configuration for that org and repo combination."
  | lookupFailed => "An error occurred while validating if this configuration already exists."
  | buildIncomplete =>
    "Please provide the Go version, the build commands and the test build commands."
  | noTests => "Please add at least one test."

/-- The branch of a repository for which none is named. -/
def defaultBranch : String := "master"

/-- The answers with the default branch, when a repository is named without one. -/
def Answers.withBranch (answers : Answers) : Answers :=
  if Text.isBlank answers.branch && !Text.isBlank answers.org && !Text.isBlank answers.repo then
    { answers with branch := defaultBranch }
  else answers

/-- A session: the answers so far, the stage that is current, the record of that stage, on
whose behalf it asks, and what it has asked. -/
structure Session where
  answers : Answers
  stage : Stage
  record : StageRecord
  caller : Caller
  asked : List Call
  deriving Inhabited

/-- The stage cannot be left yet. -/
structure StageIncomplete where
  stage : Stage
  deriving DecidableEq, Repr

/-- The report of a stage that cannot be left yet. -/
def StageIncomplete.message (incomplete : StageIncomplete) : String :=
  "The " ++ incomplete.stage.name ++ " step is not complete"

namespace Session

/-- The document of the answers so far. -/
def document (session : Session) : Document := Document.ofAnswers session.answers

/-- The session when it has made one more call. -/
def asking (session : Session) (call : Call) : Session :=
  { session with asked := session.asked ++ [call] }

/-- The current stage is complete. -/
def pass (session : Session) : Session :=
  { session with record := session.record.pass }

/-- The current stage is not complete, for some reasons. -/
def fail (session : Session) (messages : List String) : Session :=
  { session with record := session.record.fail messages }

/-- An edit was rejected. -/
def reject (session : Session) (message : String) : Session :=
  { session with record := session.record.reject message }

variable (service : Service)

/-- Have the service validate the document of some answers. A call that fails
counts as a negative verdict. -/
def validate (session : Session) (scope : Scope) (candidate : Answers) (extra : Extra) :
    Session × Verdict :=
  let document := Document.ofAnswers candidate
  let verdict :=
    match service.validate session.asked scope document extra with
    | .ok verdict => verdict
    | .error _ => Verdict.rejected Notice.serviceUnavailable.text
  (session.asking (.validate scope document extra), verdict)

/-- Take over a verdict on the stage. -/
def judge (session : Session) (verdict : Verdict) : Session :=
  if verdict.valid then session.pass else session.fail verdict.messages

/-- Check the repository stage. The service is asked only about a repository that
is identified, by its trimmed names. -/
def checkRepository (session : Session) : Session :=
  let session := { session with answers := session.answers.withBranch }
  if !session.answers.isIdentified then session.fail []
  else
    let org := Text.trim session.answers.org
    let repo := Text.trim session.answers.repo
    let after := session.asking (.lookup org repo)
    match service.lookup session.asked org repo with
    | .ok false => after.pass
    | .ok true => after.fail [Notice.configurationExists.text]
    | .error _ => after.fail [Notice.lookupFailed.text]

/-- The build stage asks for the commands and the version, and is checked without the
service. -/
def checkBuild (session : Session) : Session :=
  if session.answers.build.isComplete then session.pass
  else session.fail [Notice.buildIncomplete.text]

/-- The tests stage asks for a test, and is checked without the service. -/
def checkTests (session : Session) : Session :=
  if session.answers.tests.isEmpty then session.fail [Notice.noTests.text] else session.pass

/-- The last stage is checked by the service, about the whole document, if the answers can
be submitted. -/
def checkVerify (session : Session) : Session :=
  match session.answers.submittable with
  | .error error => session.fail [error.message]
  | .ok () =>
    let (session, verdict) := session.validate service .all session.answers KeyMap.empty
    session.judge verdict

/-- The check of the current stage. -/
def check (session : Session) : Session :=
  match session.stage with
  | .repository => session.checkRepository service
  | .build => session.checkBuild
  | .tests => session.checkTests
  | .verify => session.checkVerify service

/-- Enter a stage and check it. -/
def enter (session : Session) (stage : Stage) : Session :=
  { session with stage, record := .fresh stage }.check service

/-- A session starts on the first stage, with its check. -/
def start (answers : Answers) (caller : Caller) : Session :=
  Session.enter service ⟨answers, .repository, .fresh .repository, caller, []⟩ .repository

/-- Change the answers of a session. -/
def onAnswers {ε : Type} (change : InPlace ε Answers Unit) : InPlace ε Session Unit :=
  InPlace.part (·.answers) (fun session answers => { session with answers }) change

/-- Make an edit, then check the stage. The check is left out when the edit is
refused. -/
def dispatchInPlace (edit : Edit) : InPlace EditError Session Unit := do
  onAnswers edit.change
  modify (check service)

/-- Assign what may be a text to a path. -/
def setInPlace (path : String) (text : Option String) : InPlace EditError Session Unit :=
  match Edit.ofAssignment path text with
  | .error error => throw error
  | .ok none => pure ()
  | .ok (some edit) => dispatchInPlace service edit

/-- Go to the next stage, which takes a complete record. The last stage is not
left. -/
def nextInPlace : InPlace StageIncomplete Session Unit := do
  let session ← get
  InPlace.require session.record.complete ⟨session.stage⟩
  match session.stage.next? with
  | some stage => set (session.enter service stage)
  | none => pure ()

/-- The session after an edit, or why it is refused. -/
def dispatch (session : Session) (edit : Edit) : Except EditError Session :=
  (dispatchInPlace service edit).apply session

/-- The session after an assignment, or why it is refused. -/
def set (session : Session) (path : String) (text : Option String) : Except EditError Session :=
  (setInPlace service path text).apply session

/-- The session on the next stage, or the stage that cannot be left. -/
def next (session : Session) : Except StageIncomplete Session :=
  (nextInPlace service).apply session

/-- Go back to the stage before. The first stage is not left. -/
def back (session : Session) : Session :=
  match session.stage.previous? with
  | some stage => session.enter service stage
  | none => session

/-- Make an edit that the service has to accept. It is made on a copy of the answers,
which is kept only if the service accepts it. Told is whether it was made; the reason
for a rejection is recorded. -/
def commit (session : Session) (edit : Edit) (scope : Scope) (extra : Extra) : Session × Bool :=
  match edit.apply session.answers with
  | .error error => (session.reject error.message, false)
  | .ok candidate =>
    let (session, verdict) := session.validate service scope candidate extra
    if verdict.valid then
      ({ session with answers := candidate, record := session.record.silence }, true)
    else (session.fail verdict.messages, false)

/-- Follow an edit that was made by a check. -/
def followedBy (check : Session → Session) : Session × Bool → Session × Bool
  | (session, true) => (check session, true)
  | (session, false) => (session, false)

/-- Add a base image once the service accepts it. -/
def addImage (session : Session) (image : ImageTag) : Session × Bool :=
  followedBy checkBuild (session.commit service (.addImage image) .baseImages KeyMap.empty)

/-- The data that shows a substitution to the service. -/
def substitutionData (substitution : Substitution) : Extra :=
  KeyMap.empty.insert "substitution" substitution.toJson

/-- Add a substitution to the bundle once the service accepts it. -/
def addSubstitution (session : Session) (substitution : Substitution) : Session × Bool :=
  followedBy checkBuild <|
    session.commit service (.addSubstitution substitution) .operatorSubstitution
      (substitutionData substitution)

/-- Add a test once the service accepts it. -/
def addTest (session : Session) (test : TestPlan) : Session × Bool :=
  followedBy checkTests (session.commit service (.addTest test) .tests KeyMap.empty)

/-- Replace the test of a name, in its place, once the service accepts it. -/
def updateTest (session : Session) (name : String) (test : TestPlan) : Session × Bool :=
  match session.answers.findTest? name with
  | none => (session.reject ("No test named " ++ name), false)
  | some index =>
    followedBy checkTests (session.commit service (.replaceTest index test) .tests KeyMap.empty)

/-- The rendered pipeline, nothing if the service did not render it. -/
def preview (session : Session) : Session × Option String :=
  let after := session.asking (.convert session.document)
  match service.convert session.asked session.document with
  | .ok rendered => (after, some rendered)
  | .error _ => (after.reject Notice.serviceUnavailable.text, none)

/-- Generate the pipeline, if the answers can be submitted. Returned is what the
service calls it, nothing on any failure. -/
def generate (session : Session) (pullRequest : Bool) : Session × Option String :=
  match session.answers.submittable with
  | .error error => (session.fail [error.message], none)
  | .ok () =>
    let after := session.asking (.generate session.document session.caller pullRequest)
    match service.generate session.asked session.document session.caller pullRequest with
    | .ok identifier => (after.pass, some identifier)
    | .error _ => (after.fail [Notice.serviceUnavailable.text], none)

end Session

end Onboarding
