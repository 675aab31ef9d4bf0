/-! # The stages of onboarding

A repository is onboarded in four stages, visited in order. The record of a stage
says whether it may be left, and what the user is told about it.
-/

namespace Onboarding

/-- A stage of onboarding. -/
inductive Stage where
  | repository
  | build
  | tests
  | verify
  deriving DecidableEq, Repr, Inhabited

namespace Stage

/-- The name of a stage. -/
def name : Stage → String
  | repository => "repository"
  | build => "build"
  | tests => "tests"
  | verify => "verify"

/-- The stages in their order. -/
def all : List Stage := [repository, build, tests, verify]

/-- The stage behind another, if it is not the last. -/
def next? : Stage → Option Stage
  | repository => some build
  | build => some tests
  | tests => some verify
  | verify => none

/-- The stage in front of another, if it is not the first. -/
def previous? : Stage → Option Stage
  | repository => none
  | build => some repository
  | tests => some build
  | verify => some tests

/-- The stage of a name. -/
def ofName? (name : String) : Option Stage :=
  all.find? (·.name == name)

end Stage

/-- Where a stage stands. -/
structure StageRecord where
  stage : Stage
  complete : Bool
  messages : List String
  deriving DecidableEq, Repr, Inhabited

namespace StageRecord

/-- The record of a stage that has not been checked. -/
def fresh (stage : Stage) : StageRecord := ⟨stage, false, []⟩

/-- The stage is complete, and there is nothing to say. -/
def pass (record : StageRecord) : StageRecord :=
  { record with complete := true, messages := [] }

/-- The stage is incomplete, for the given reasons. -/
def fail (record : StageRecord) (messages : List String) : StageRecord :=
  { record with complete := false, messages }

/-- An edit was rejected, which leaves the stage as complete as it was. -/
def reject (record : StageRecord) (message : String) : StageRecord :=
  { record with messages := [message] }

/-- Nothing is said any more. -/
def silence (record : StageRecord) : StageRecord :=
  { record with messages := [] }

end StageRecord

end Onboarding
