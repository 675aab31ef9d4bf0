import Onboarding.Answers.Basic
import Onboarding.Json.Reading

/-! # The wire form of answers

Answers are exchanged under camel-case keys. A part that is left out keeps its
blank value, and absent texts are not written. A bundle plan has a flag of its
own: an object without the flag, like no object at all, means that no bundle is
built, and that is written as null.
-/

namespace Onboarding

variable {ν ε : Type} (source : Source ν ε)

namespace ReleaseStream

/-- The names of the streams in a file of answers. -/
def wireNames : List (String × ReleaseStream) :=
  all.map fun stream => (stream.wireName, stream)

/-- A stream is read from one of its names. -/
def read : ν → Except ε ReleaseStream := source.choice wireNames

/-- A stream is written as its name. -/
def toJson (stream : ReleaseStream) : Json := .string stream.wireName

end ReleaseStream

namespace UpgradeStrategy

/-- A strategy is read from any of its names. -/
def read : ν → Except ε UpgradeStrategy := source.choice names

/-- A strategy is written as the name it has in documents. -/
def toJson (strategy : UpgradeStrategy) : Json := .string strategy.name

end UpgradeStrategy

namespace TestKind

/-- A kind of test is read from its name. -/
def read : ν → Except ε TestKind := source.choice names

/-- A kind of test is written as its name. -/
def toJson (kind : TestKind) : Json := .string kind.name

end TestKind

namespace Cloud

/-- Read a cloud, which any text names. -/
def read (value : ν) : Except ε Cloud := (source.text value).map ofName

/-- A cloud is written as its name. -/
def toJson (cloud : Cloud) : Json := .string cloud.name

end Cloud

namespace ImageTag

/-- An image is a record of three texts, all of which must be there. -/
def shape : Record ν ε ImageTag where
  title := "BaseImage"
  blank := ⟨"", "", ""⟩
  fields :=
    [.mandatory "name" source.text fun image name => { image with name },
      .mandatory "namespace" source.text fun image project => { image with project },
      .mandatory "tag" source.text fun image tag => { image with tag }]

/-- Images are read from records of their shape. -/
def read : ν → Except ε ImageTag := source.record (shape source)

/-- Images are written with all three texts. -/
def toJson (image : ImageTag) : Json :=
  .object [("name", .string image.name), ("namespace", .string image.project),
    ("tag", .string image.tag)]

end ImageTag

namespace Substitution

/-- Substitutions as records of a type with the given title. -/
def shape (title : String) : Record ν ε Substitution where
  title := title
  blank := ⟨"", ""⟩
  fields :=
    [.mandatory "pullspec" source.text fun substitution pullspec => { substitution with pullspec },
      .mandatory "with" source.text fun substitution replacement =>
        { substitution with replacement }]

/-- The substitutions of answers are read under the title they have there. -/
def read : ν → Except ε Substitution := source.record (shape source "PullspecSubstitution")

/-- Substitutions are written with both texts. -/
def toJson (substitution : Substitution) : Json :=
  .object [("pullspec", .string substitution.pullspec), ("with", .string substitution.replacement)]

end Substitution

namespace ReleaseChoice

/-- A release is a record of a stream and a version. Where both are left out, no release is
imported. -/
def shape : Record ν ε ReleaseChoice where
  title := "ReleaseConfig"
  blank := blank
  fields :=
    [.defaulted "type" (ReleaseStream.read source) fun release stream => { release with stream },
      .defaulted "version" (source.optional source.text) fun release version =>
        { release with version }]

/-- Releases are read from records of their shape. -/
def read : ν → Except ε ReleaseChoice := source.record (shape source)

/-- Releases are written with their stream, and with a version if there is one. -/
def toJson (release : ReleaseChoice) : Json :=
  .object (("type", release.stream.toJson) ::
    Json.optionalMember "version" release.version .string)

end ReleaseChoice

/-- A bundle plan with the flag that says whether it counts. -/
structure FlaggedBundlePlan where
  isBuilt : Bool
  plan : BundlePlan
  deriving DecidableEq, Repr, Inhabited

namespace FlaggedBundlePlan

/-- A bundle is a record with a flag of its own: what is said about a bundle that is not
built is read, and then dropped. -/
def shape : Record ν ε FlaggedBundlePlan where
  title := "OperatorConfigRepr"
  blank := ⟨false, BundlePlan.blank⟩
  fields :=
    [.defaulted "isOperator" source.flag fun flagged isBuilt => { flagged with isBuilt },
      .defaulted "name" (source.optional source.text) fun flagged name =>
        { flagged with plan := { flagged.plan with name } },
      .defaulted "dockerfilePath" (source.optional source.text) fun flagged dockerfilePath =>
        { flagged with plan := { flagged.plan with dockerfilePath } },
      .defaulted "contextDir" (source.optional source.text) fun flagged contextDir =>
        { flagged with plan := { flagged.plan with contextDir } },
      .defaulted "baseIndex" (source.optional source.text) fun flagged baseIndex =>
        { flagged with plan := { flagged.plan with baseIndex } },
      .defaulted "updateGraph" (source.optional (UpgradeStrategy.read source))
        fun flagged upgrade => { flagged with plan := { flagged.plan with upgrade } },
      .defaulted "substitutions" (source.list (Substitution.read source))
        fun flagged substitutions => { flagged with plan := { flagged.plan with substitutions } }]

/-- The plan, if it counts. -/
def plan? (flagged : FlaggedBundlePlan) : Option BundlePlan :=
  if flagged.isBuilt then some flagged.plan else none

end FlaggedBundlePlan

namespace BundlePlan

/-- Read whether a bundle is built, and how. -/
def read? (value : ν) : Except ε (Option BundlePlan) :=
  (source.optional (source.record (FlaggedBundlePlan.shape source)) value).map fun flagged =>
    flagged.bind FlaggedBundlePlan.plan?

/-- A bundle is written with its flag set. Texts that are not there are left out. -/
def toJson (plan : BundlePlan) : Json :=
  .object ([("isOperator", .bool true)] ++
    Json.optionalMember "name" plan.name .string ++
    Json.optionalMember "dockerfilePath" plan.dockerfilePath .string ++
    Json.optionalMember "contextDir" plan.contextDir .string ++
    Json.optionalMember "baseIndex" plan.baseIndex .string ++
    Json.optionalMember "updateGraph" plan.upgrade UpgradeStrategy.toJson ++
    [("substitutions", Json.ofList plan.substitutions Substitution.toJson)])

/-- Write whether a bundle is built, and how. -/
def toJson? : Option BundlePlan → Json
  | some plan => plan.toJson
  | none => .null

end BundlePlan

namespace BuildPlan

/-- Build parameters are a record all of whose fields may be left out. -/
def shape : Record ν ε BuildPlan where
  title := "BuildSettings"
  blank := blank
  fields :=
    [.defaulted "buildPromotes" source.flag fun plan promotes => { plan with promotes },
      .defaulted "partOfOSRelease" source.flag fun plan inRelease => { plan with inRelease },
      .defaulted "needsBase" source.flag fun plan needsBase => { plan with needsBase },
      .defaulted "needsOS" source.flag fun plan needsOs => { plan with needsOs },
      .defaulted "goVersion" (source.optional source.text) fun plan goVersion =>
        { plan with goVersion },
      .defaulted "canonicalGoRepository" (source.optional source.text) fun plan importPath =>
        { plan with importPath },
      .defaulted "buildCommands" (source.optional source.text) fun plan buildCommands =>
        { plan with buildCommands },
      .defaulted "testBuildCommands" (source.optional source.text) fun plan testBuildCommands =>
        { plan with testBuildCommands },
      .defaulted "baseImages" (source.list (ImageTag.read source)) fun plan baseImages =>
        { plan with baseImages },
      .defaulted "operatorConfig" (BundlePlan.read? source) fun plan bundle =>
        { plan with bundle },
      .defaulted "release" (ReleaseChoice.read source) fun plan release => { plan with release }]

/-- Build parameters are read from records of their shape. -/
def read : ν → Except ε BuildPlan := source.record (shape source)

/-- Build parameters are written with all flags and lists. Texts that are not there are
left out. -/
def toJson (plan : BuildPlan) : Json :=
  .object ([("buildPromotes", .bool plan.promotes), ("partOfOSRelease", .bool plan.inRelease),
      ("needsBase", .bool plan.needsBase), ("needsOS", .bool plan.needsOs)] ++
    Json.optionalMember "goVersion" plan.goVersion .string ++
    Json.optionalMember "canonicalGoRepository" plan.importPath .string ++
    Json.optionalMember "buildCommands" plan.buildCommands .string ++
    Json.optionalMember "testBuildCommands" plan.testBuildCommands .string ++
    [("baseImages", Json.ofList plan.baseImages ImageTag.toJson),
      ("operatorConfig", BundlePlan.toJson? plan.bundle),
      ("release", plan.release.toJson)])

end BuildPlan

namespace OperatorParameters

/-- The parameters of an operator are a record of texts, any of which may be left out. -/
def shape : Record ν ε OperatorParameters where
  title := "OperatorTestConfig"
  blank := blank
  fields :=
    [.defaulted "bundleName" (source.optional source.text) fun parameters bundleName =>
        { parameters with bundleName },
      .defaulted "package" (source.optional source.text) fun parameters package =>
        { parameters with package },
      .defaulted "channel" (source.optional source.text) fun parameters channel =>
        { parameters with channel },
      .defaulted "installNamespace" (source.optional source.text)
        fun parameters installNamespace => { parameters with installNamespace },
      .defaulted "targetNamespaces" (source.optional source.text)
        fun parameters targetNamespaces => { parameters with targetNamespaces }]

/-- Parameters of an operator are read from records of their shape. -/
def read : ν → Except ε OperatorParameters := source.record (shape source)

/-- Of the parameters of an operator, those that are there are written. -/
def toJson (parameters : OperatorParameters) : Json :=
  .object (Json.optionalMember "bundleName" parameters.bundleName .string ++
    Json.optionalMember "package" parameters.package .string ++
    Json.optionalMember "channel" parameters.channel .string ++
    Json.optionalMember "installNamespace" parameters.installNamespace .string ++
    Json.optionalMember "targetNamespaces" parameters.targetNamespaces .string)

end OperatorParameters

namespace TestPlan

/-- A test is a record all of whose fields may be left out, its name too. -/
def shape : Record ν ε TestPlan where
  title := "Test"
  blank := blank
  fields :=
    [.defaulted "name" source.text fun test name => { test with name },
      .defaulted "type" (TestKind.read source) fun test kind => { test with kind },
      .defaulted "requiresBuiltBinaries" source.flag fun test needsBinaries =>
        { test with needsBinaries },
      .defaulted "requiresTestBinaries" source.flag fun test needsTestBinaries =>
        { test with needsTestBinaries },
      .defaulted "requiresCli" source.flag fun test needsClient => { test with needsClient },
      .defaulted "testCommands" (source.optional source.text) fun test commands =>
        { test with commands },
      .defaulted "cloudProvider" (source.optional (Cloud.read source)) fun test cloud =>
        { test with cloud },
      .defaulted "operatorConfig" (source.optional (OperatorParameters.read source))
        fun test operator => { test with operator },
      .defaulted "env" (source.map source.text) fun test environment => { test with environment },
      .defaulted "dependencies" (source.map source.text) fun test dependencies =>
        { test with dependencies }]

/-- Tests are read from records of their shape. -/
def read : ν → Except ε TestPlan := source.record (shape source)

/-- Tests are written with all flags and maps. Texts that are not there are left out. -/
def toJson (test : TestPlan) : Json :=
  .object ([("name", .string test.name), ("type", test.kind.toJson),
      ("requiresBuiltBinaries", .bool test.needsBinaries),
      ("requiresTestBinaries", .bool test.needsTestBinaries),
      ("requiresCli", .bool test.needsClient)] ++
    Json.optionalMember "testCommands" test.commands .string ++
    Json.optionalMember "cloudProvider" test.cloud Cloud.toJson ++
    Json.optionalMember "operatorConfig" test.operator OperatorParameters.toJson ++
    [("env", Json.ofMap test.environment .string),
      ("dependencies", Json.ofMap test.dependencies .string)])

end TestPlan

namespace Answers

/-- Answers are a record all of whose fields may be left out. -/
def shape : Record ν ε Answers where
  title := "RepoConfig"
  blank := blank
  fields :=
    [.defaulted "org" source.text fun answers org => { answers with org },
      .defaulted "repo" source.text fun answers repo => { answers with repo },
      .defaulted "branch" source.text fun answers branch => { answers with branch },
      .defaulted "buildSettings" (BuildPlan.read source) fun answers build =>
        { answers with build },
      .defaulted "tests" (source.list (TestPlan.read source)) fun answers tests =>
        { answers with tests }]

/-- Answers are read from records of their shape. -/
def read : ν → Except ε Answers := source.record (shape source)

/-- Answers that are read from a value of JSON. -/
def ofJson? : Json → Except Json.Misfit Answers := read Json.source

/-- Answers are written with all their fields. -/
def toJson (answers : Answers) : Json :=
  .object [("org", .string answers.org), ("repo", .string answers.repo),
    ("branch", .string answers.branch), ("buildSettings", answers.build.toJson),
    ("tests", Json.ofList answers.tests TestPlan.toJson)]

end Answers

end Onboarding
