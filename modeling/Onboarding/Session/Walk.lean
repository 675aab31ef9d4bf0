import Onboarding.Session.Basic

/-! # Walking answers through all stages

Complete answers are walked through a session as a user would enter them. The base
images, the substitutions and the tests are set aside; the session starts on what
is left and adds them one by one on their stages. When all stages are complete the
pipeline is rendered and, unless the walk is only tried, generated. A walk ends at
the first stage that is not complete or addition that is rejected.
-/

namespace Onboarding

/-- A walk that ended early: on which stage, and what the user was told there. -/
structure WalkRejected where
  stage : Stage
  messages : List String
  deriving DecidableEq, Repr

/-- The report of a walk that ended early. -/
def WalkRejected.message (rejected : WalkRejected) : String :=
  "The " ++ rejected.stage.name ++ " step is not complete" ++
    if rejected.messages.isEmpty then "" else ": " ++ "; ".intercalate rejected.messages

namespace Answers

/-- The answers without what a walk adds one by one. -/
def seed (answers : Answers) : Answers :=
  { answers with
    build := { answers.build with
      baseImages := []
      bundle := answers.build.bundle.map ({ · with substitutions := [] }) }
    tests := [] }

/-- The substitutions of the bundle, if one is built. -/
def substitutions (answers : Answers) : List Substitution :=
  (answers.build.bundle.map (·.substitutions)).getD []

end Answers

namespace Session

/-- A walk in progress, or the session in which it ended. -/
abbrev Walk := Except Session Session

/-- The rejection of a session that does not get on: its stage, and what its record says. -/
def rejection (session : Session) : WalkRejected :=
  ⟨session.stage, session.record.messages⟩

variable (service : Service)

/-- Go to the next stage, which takes a complete record. -/
def advance (session : Session) : Walk :=
  match nextInPlace service session with
  | .ok () session => .ok session
  | .error _ session => .error session

/-- Go on only if an addition was made. -/
def added : Session × Bool → Walk
  | (session, true) => .ok session
  | (session, false) => .error session

/-- Entries are added one after the other, up to the first that is refused. -/
def addAll {α : Type} (add : Session → α → Session × Bool) : List α → Session → Walk
  | [], session => .ok session
  | entry :: entries, session =>
    match added (add session entry) with
    | .ok session => addAll add entries session
    | .error session => .error session

/-- Walk answers to the end of the verify stage. -/
def walkThrough (answers : Answers) (caller : Caller) : Walk := do
  let session ← (start service answers.seed caller).advance service
  let session ← addAll (addImage service) answers.build.baseImages session
  let session ← addAll (addSubstitution service) answers.substitutions session
  let session ← (session.check service).advance service
  let session ← addAll (addTest service) answers.tests session
  let session ← session.advance service
  if session.record.complete then return session else throw session

/-- Walk answers through all stages, render the pipeline and generate it unless the
walk is only tried. Told is the last session, and the text that came of it. -/
def walk (answers : Answers) (caller : Caller) (pullRequest dryRun : Bool) :
    Session × Except WalkRejected String :=
  match walkThrough service answers caller with
  | .error session => (session, .error session.rejection)
  | .ok session =>
    match session.preview service with
    | (session, none) => (session, .error session.rejection)
    | (session, some rendered) =>
      if dryRun then (session, .ok rendered)
      else
        match session.generate service pullRequest with
        | (session, none) => (session, .error session.rejection)
        | (session, some identifier) =>
          (session, .ok (rendered ++ "\nGenerated " ++ identifier ++ "\n"))

end Session

end Onboarding
