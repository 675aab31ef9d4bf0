import Onboarding.Document.Basic
import Onboarding.Text.Quoting

/-! # From answers to the document

The document of some answers is a function of the answers alone, complete or not.
The promotion flags below the first count only when images are promoted; of
several base images with one name the last counts; a unit test keeps its texts as
they are while those of other tests are trimmed; and the parameters of an operator
test go to its environment and dependencies, each under a key of its own and only
if it was given. Whether a document may be submitted is a separate question, which
looks at the identity of the repository and at the version of the release.
-/

namespace Onboarding

namespace Cloud

/-- The cluster profile for a cloud, empty for none and for an unknown one. -/
def profile : Option Cloud → String
  | some aws => "aws"
  | some azure => "azure"
  | some gcp => "gcp"
  | some (other _) | none => ""

/-- The operator workflow for a cloud, that of AWS for none and an unknown one. -/
def operatorWorkflow : Option Cloud → String
  | some azure => "optional-operators-ci-azure"
  | some gcp => "optional-operators-ci-gcp"
  | some aws | some (other _) | none => "optional-operators-ci-aws"

end Cloud

namespace OperatorParameters

/-- A workflow variable for a parameter that was given. -/
def parameter? (key : String) (value : Option String) : Option (String × String) :=
  value.map fun text => (key, Text.quoted text)

/-- The workflow's environment: the channel, the package and the namespaces. -/
def environment (parameters : OperatorParameters) : KeyMap String :=
  KeyMap.ofList <| List.reduceOption
    [parameter? "OO_CHANNEL" parameters.channel,
      parameter? "OO_PACKAGE" parameters.package,
      parameter? "OO_INSTALL_NAMESPACE" parameters.installNamespace,
      parameter? "OO_TARGET_NAMESPACES" parameters.targetNamespaces]

/-- The workflow's dependencies: the index that holds the bundle. -/
def dependencies (parameters : OperatorParameters) : KeyMap String :=
  KeyMap.ofList (parameter? "OO_INDEX" parameters.bundleName).toList

end OperatorParameters

namespace UnitJob

/-- Unit tests become unit jobs. -/
def ofTest? (test : TestPlan) : Option UnitJob :=
  match test.kind with
  | .unit => some ⟨test.name, test.commands⟩
  | .endToEnd | .operator => none

end UnitJob

namespace CustomJob

/-- The job of a test against a cluster, without a workflow. -/
def plain (test : TestPlan) : CustomJob where
  name := Text.trim test.name
  command := Text.trimOption test.commands
  profile := Cloud.profile test.cloud
  workflow := none
  client := test.needsClient
  environment := none
  dependencies := none

/-- A job that installs the operator by the workflow of a cloud, with the parameters of the
operator in its environment and its dependencies. -/
def installing (test : TestPlan) : CustomJob :=
  { plain test with
    workflow := some (Cloud.operatorWorkflow test.cloud)
    environment := some ((test.operator.map (·.environment)).getD KeyMap.empty)
    dependencies := some ((test.operator.map (·.dependencies)).getD KeyMap.empty) }

/-- The job of a test that is no unit test. -/
def ofTest? (test : TestPlan) : Option CustomJob :=
  match test.kind with
  | .unit => none
  | .endToEnd => some (plain test)
  | .operator => some (installing test)

end CustomJob

namespace BundleSection

/-- The name of a bundle that was given none. -/
def defaultName : String := "ci-index"

/-- A substitution in a document has no white space around its texts. -/
def trimmed (substitution : Substitution) : Substitution :=
  ⟨Text.trim substitution.pullspec, Text.trim substitution.replacement⟩

/-- The section of a bundle that is built. Its texts are trimmed, and a bundle without a
name gets the default one. -/
def ofPlan (plan : BundlePlan) : BundleSection where
  name :=
    let name := Text.trimOption plan.name
    if name.isEmpty then defaultName else name
  dockerfilePath := Text.trimOption plan.dockerfilePath
  contextDir := Text.trimOption plan.contextDir
  baseIndex := Text.trimOption plan.baseIndex
  upgrade := (plan.upgrade.map UpgradeStrategy.name).getD ""
  substitutions := plan.substitutions.map trimmed

end BundleSection

namespace Document

/-- Base images under their names, the last of each name. -/
def imagesByName (images : List ImageTag) : KeyMap ImageTag :=
  KeyMap.ofList (images.map fun image => (image.name, image))

/-- The document of some answers. What depends on promotion is off where nothing is
promoted. -/
def ofAnswers (answers : Answers) : Document :=
  let plan := answers.build
  { org := answers.org
    repo := answers.repo
    branch := answers.branch
    importPath := plan.importPath
    promotes := plan.promotes
    inRelease := plan.promotes && plan.inRelease
    needsBase := plan.promotes && plan.needsBase
    needsOs := plan.promotes && plan.needsOs
    goVersion := plan.goVersion
    baseImages := imagesByName plan.baseImages
    buildCommands := plan.buildCommands
    testBuildCommands := plan.testBuildCommands
    unitJobs := answers.tests.filterMap UnitJob.ofTest?
    customJobs := answers.tests.filterMap CustomJob.ofTest?
    bundle := plan.bundle.map BundleSection.ofPlan
    release := plan.release.stream.name
    releaseVersion := plan.release.version }

end Document

/-- Why the document of some answers may not be submitted. -/
inductive SubmissionError where
  /-- An identity field is blank. -/
  | missingField (field : IdentityField)
  /-- The release has no version. -/
  | missingReleaseVersion (stream : ReleaseStream)
  deriving DecidableEq, Repr

/-- What is told of answers that cannot be submitted. -/
def SubmissionError.message : SubmissionError → String
  | .missingField field => "MissingField: " ++ field.name
  | .missingReleaseVersion stream =>
    "MissingReleaseVersion: release type " ++ stream.name ++ " requires a version"

/-- Answers can be submitted once they are identified and the release is complete. -/
def Answers.submittable (answers : Answers) : Except SubmissionError Unit :=
  match answers.missingIdentity? with
  | some field => .error (.missingField field)
  | none =>
    if answers.build.release.isComplete then .ok ()
    else .error (.missingReleaseVersion answers.build.release.stream)

end Onboarding
