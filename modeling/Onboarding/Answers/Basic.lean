import Onboarding.Answers.Names
import Onboarding.KeyMap
import Onboarding.Text.Blank

/-! # The answers about a repository

Everything a user has said about a repository that is to get a pipeline: which
repository it is, how it is built, from which images, whether it builds an
operator bundle, and which tests run. Answers may be incomplete at any time; what
completeness of a part means is said here, and so is when two entries of a list
are the same entry.
-/

namespace Onboarding

/-- An image stream tag that image builds can start from, in its project. -/
structure ImageTag where
  name : String
  project : String
  tag : String
  deriving DecidableEq, Repr, Inhabited

/-- An image reference in the manifests of a bundle, and what replaces it. -/
structure Substitution where
  pullspec : String
  replacement : String
  deriving DecidableEq, Repr, Inhabited

/-- How the operator bundle is built. -/
structure BundlePlan where
  name : Option String
  dockerfilePath : Option String
  contextDir : Option String
  baseIndex : Option String
  upgrade : Option UpgradeStrategy
  substitutions : List Substitution
  deriving DecidableEq, Repr, Inhabited

/-- The release that tests run on top of, with its version. -/
structure ReleaseChoice where
  stream : ReleaseStream
  version : Option String
  deriving DecidableEq, Repr, Inhabited

/-- How a repository is built and which images it starts from. No bundle plan
means that no operator bundle is built. -/
structure BuildPlan where
  promotes : Bool
  inRelease : Bool
  needsBase : Bool
  needsOs : Bool
  goVersion : Option String
  importPath : Option String
  buildCommands : Option String
  testBuildCommands : Option String
  baseImages : List ImageTag
  bundle : Option BundlePlan
  release : ReleaseChoice
  deriving DecidableEq, Repr, Inhabited

/-- The parameters of the workflow that installs an operator. -/
structure OperatorParameters where
  bundleName : Option String
  package : Option String
  channel : Option String
  installNamespace : Option String
  targetNamespaces : Option String
  deriving DecidableEq, Repr, Inhabited

/-- A test that the pipeline runs. -/
structure TestPlan where
  name : String
  kind : TestKind
  needsBinaries : Bool
  needsTestBinaries : Bool
  needsClient : Bool
  commands : Option String
  cloud : Option Cloud
  operator : Option OperatorParameters
  environment : KeyMap String
  dependencies : KeyMap String
  deriving DecidableEq, Repr, Inhabited

/-- The answers about one repository. -/
structure Answers where
  org : String
  repo : String
  branch : String
  build : BuildPlan
  tests : List TestPlan
  deriving DecidableEq, Repr, Inhabited

/-- The texts that identify what a pipeline is for. -/
inductive IdentityField where
  | org
  | repo
  | branch
  deriving DecidableEq, Repr

namespace IdentityField

/-- The name of an identifying field, as it is written in answers and on the command line. -/
def name : IdentityField → String
  | org => "org"
  | repo => "repo"
  | branch => "branch"

/-- The identity fields in the order in which they are asked for. -/
def all : List IdentityField := [org, repo, branch]

end IdentityField

namespace ImageTag

/-- A complete image tag has all three parts. -/
def isComplete (image : ImageTag) : Bool :=
  !image.name.isEmpty && !image.project.isEmpty && !image.tag.isEmpty

/-- Image tags are the same when their three parts are equal ignoring case. -/
def sameAs (left right : ImageTag) : Bool :=
  Text.sameIgnoringCase left.name right.name &&
    Text.sameIgnoringCase left.project right.project &&
    Text.sameIgnoringCase left.tag right.tag

end ImageTag

namespace BundlePlan

/-- Parameters of a bundle nothing has been said about. -/
def blank : BundlePlan := ⟨none, none, none, none, none, []⟩

/-- The position of the substitution for a pullspec, ignoring case. -/
def findSubstitution? (plan : BundlePlan) (pullspec : String) : Option Nat :=
  plan.substitutions.findIdx? fun substitution =>
    Text.sameIgnoringCase substitution.pullspec pullspec

end BundlePlan

namespace ReleaseChoice

/-- A release that is not imported. -/
def blank : ReleaseChoice := ⟨.none, none⟩

/-- A release needs a version that is not blank, unless there is none. -/
def isComplete (release : ReleaseChoice) : Bool :=
  release.stream == .none ||
    match release.version with
    | some version => !Text.isBlank version
    | none => false

end ReleaseChoice

namespace BuildPlan

/-- Build parameters nothing has been said about: no flag is set and no bundle is built. -/
def blank : BuildPlan :=
  ⟨false, false, false, false, none, none, none, none, [], none, ReleaseChoice.blank⟩

/-- A complete build plan has a Go version and both build commands. -/
def isComplete (plan : BuildPlan) : Bool :=
  [plan.goVersion, plan.buildCommands, plan.testBuildCommands].all Text.isFilled

/-- The position of an image tag that is the same. -/
def findBaseImage? (plan : BuildPlan) (image : ImageTag) : Option Nat :=
  plan.baseImages.findIdx? (·.sameAs image)

end BuildPlan

namespace OperatorParameters

/-- Parameters of an operator nothing has been said about. -/
def blank : OperatorParameters := ⟨none, none, none, none, none⟩

end OperatorParameters

namespace TestPlan

/-- A unit test that has neither a name nor commands. -/
def blank : TestPlan :=
  ⟨"", .unit, false, false, false, none, none, none, KeyMap.empty, KeyMap.empty⟩

/-- A complete test has a name and something to run. -/
def isComplete (test : TestPlan) : Bool :=
  !Text.isBlank test.name && Text.isFilled test.commands

end TestPlan

namespace Answers

/-- Answers to nothing, with which a session starts. -/
def blank : Answers := ⟨"", "", "", BuildPlan.blank, []⟩

/-- The text of an identifying field. -/
def identity (answers : Answers) : IdentityField → String
  | .org => answers.org
  | .repo => answers.repo
  | .branch => answers.branch

/-- The first identifying field that is blank. -/
def missingIdentity? (answers : Answers) : Option IdentityField :=
  IdentityField.all.find? fun field => Text.isBlank (answers.identity field)

/-- Whether organization, repository and branch are all given. -/
def isIdentified (answers : Answers) : Bool :=
  answers.missingIdentity?.isNone

/-- The position of the test with a name, ignoring case. -/
def findTest? (answers : Answers) (name : String) : Option Nat :=
  answers.tests.findIdx? fun test => Text.sameIgnoringCase test.name name

end Answers

end Onboarding
