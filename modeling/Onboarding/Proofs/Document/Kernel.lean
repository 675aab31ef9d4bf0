import Mathlib.Data.List.Forall2
import Onboarding.Document.OfAnswers
import Onboarding.Proofs.KeyMap
import Onboarding.Proofs.Text.Blank
import Onboarding.Proofs.Text.Quoting

/-! # What a document keeps of the answers

Two sets of answers have one document exactly if they agree on what a document is made
of (`Onboarding.Answers.SameDocument`). Forgotten are white space around the texts of a
bundle and of tests that are no unit tests, the flags below a promotion that does not take
place, base images that another of their name follows, how unit tests and other tests are
mixed, and what a test of some kind has no use for. Nothing else is.
-/

namespace Onboarding

/-- The cloud if it is a known one. -/
def Cloud.known? : Option Cloud → Option Cloud
  | some (other _) | none => none
  | some cloud => some cloud

/-- The parameters without the white space around their texts. -/
def OperatorParameters.trimmed (parameters : OperatorParameters) : OperatorParameters where
  bundleName := parameters.bundleName.map Text.trim
  package := parameters.package.map Text.trim
  channel := parameters.channel.map Text.trim
  installNamespace := parameters.installNamespace.map Text.trim
  targetNamespaces := parameters.targetNamespaces.map Text.trim

/-- The parameters of an operator test, all absent when none are given. -/
def TestPlan.parameters (test : TestPlan) : OperatorParameters :=
  test.operator.getD OperatorParameters.blank

/-- Tests that are no unit tests agree on what counts for their kind. -/
structure TestPlan.SameJob (left right : TestPlan) : Prop where
  kind : left.kind = right.kind
  name : Text.trim left.name = Text.trim right.name
  commands : Text.trimOption left.commands = Text.trimOption right.commands
  needsClient : left.needsClient = right.needsClient
  cloud : Cloud.known? left.cloud = Cloud.known? right.cloud
  parameters : left.kind = .operator → left.parameters.trimmed = right.parameters.trimmed

/-- The name of the bundle, with white space taken off and the default filled in. -/
def BundlePlan.effectiveName (plan : BundlePlan) : String :=
  match plan.name with
  | some name => if Text.isBlank name then "ci-index" else Text.trim name
  | none => "ci-index"

/-- Two substitutions with the same texts but for white space around them. -/
structure Substitution.SameTexts (left right : Substitution) : Prop where
  pullspec : Text.trim left.pullspec = Text.trim right.pullspec
  replacement : Text.trim left.replacement = Text.trim right.replacement

/-- Bundle plans agree on what a bundle section is made of. -/
structure BundlePlan.SameSection (left right : BundlePlan) : Prop where
  name : left.effectiveName = right.effectiveName
  dockerfilePath : Text.trimOption left.dockerfilePath = Text.trimOption right.dockerfilePath
  contextDir : Text.trimOption left.contextDir = Text.trimOption right.contextDir
  baseIndex : Text.trimOption left.baseIndex = Text.trimOption right.baseIndex
  upgrade : left.upgrade = right.upgrade
  substitutions : List.Forall₂ Substitution.SameTexts left.substitutions right.substitutions

namespace Answers

/-- The last base image with a name. -/
def lastImage? (answers : Answers) (name : String) : Option ImageTag :=
  answers.build.baseImages.reverse.find? (·.name = name)

/-- What becomes of the unit tests: their names and commands. -/
def unitTests (answers : Answers) : List (String × Option String) :=
  (answers.tests.filter (·.kind = .unit)).map fun test => (test.name, test.commands)

/-- The tests that become jobs of their own. -/
def otherTests (answers : Answers) : List TestPlan :=
  answers.tests.filter (·.kind ≠ .unit)

/-- Answers agree on what a document is made of. -/
structure SameDocument (left right : Answers) : Prop where
  org : left.org = right.org
  repo : left.repo = right.repo
  branch : left.branch = right.branch
  importPath : left.build.importPath = right.build.importPath
  goVersion : left.build.goVersion = right.build.goVersion
  buildCommands : left.build.buildCommands = right.build.buildCommands
  testBuildCommands : left.build.testBuildCommands = right.build.testBuildCommands
  promotes : left.build.promotes = right.build.promotes
  stream : left.build.release.stream = right.build.release.stream
  version : left.build.release.version = right.build.release.version
  promotion : left.build.promotes = true →
    left.build.inRelease = right.build.inRelease ∧ left.build.needsBase = right.build.needsBase ∧
      left.build.needsOs = right.build.needsOs
  images : ∀ name, left.lastImage? name = right.lastImage? name
  unitTests : left.unitTests = right.unitTests
  otherTests : List.Forall₂ TestPlan.SameJob left.otherTests right.otherTests
  bundle : Option.Rel BundlePlan.SameSection left.build.bundle right.build.bundle

end Answers

/-! ## The parts of a document -/

/-- Lists have the same image under a map exactly if their entries have, one by one. -/
theorem map_eq_map_iff_forall₂ {α β : Type} {f : α → β} {same : α → α → Prop}
    {left right : List α}
    (exact : ∀ first ∈ left, ∀ second ∈ right, f first = f second ↔ same first second) :
    left.map f = right.map f ↔ List.Forall₂ same left right := by
  rw [← List.forall₂_eq_eq_eq, List.forall₂_map_left_iff, List.forall₂_map_right_iff,
    List.forall₂_iff_zip, List.forall₂_iff_zip]
  refine and_congr_right fun _ => ?_
  constructor
  · intro mapped first second member
    obtain ⟨inLeft, inRight⟩ := List.of_mem_zip member
    exact (exact first inLeft second inRight).mp (mapped member)
  · intro related first second member
    obtain ⟨inLeft, inRight⟩ := List.of_mem_zip member
    exact (exact first inLeft second inRight).mpr (related member)

/-- A profile tells a known cloud from every other; those it does not tell apart. -/
theorem Cloud.profile_eq_iff {left right : Option Cloud} :
    Cloud.profile left = Cloud.profile right ↔ Cloud.known? left = Cloud.known? right := by
  rcases left with _ | left
  · rcases right with _ | right
    · simp
    · cases right <;> simp [profile, known?]
  · rcases right with _ | right
    · cases left <;> simp [profile, known?]
    · cases left <;> cases right <;> simp [profile, known?]

/-- A cloud that is not known has the workflow of none. -/
theorem Cloud.operatorWorkflow_known? (cloud : Option Cloud) :
    Cloud.operatorWorkflow (Cloud.known? cloud) = Cloud.operatorWorkflow cloud := by
  rcases cloud with _ | _ | _ <;> rfl

/-- No upgrade strategy is written as none is. -/
theorem UpgradeStrategy.written_inj {left right : Option UpgradeStrategy} :
    (left.map UpgradeStrategy.name).getD "" = (right.map UpgradeStrategy.name).getD "" ↔
      left = right := by
  rcases left with _ | left
  · rcases right with _ | right
    · simp
    · cases right <;> simp [name]
  · rcases right with _ | right
    · cases left <;> simp [name]
    · cases left <;> cases right <;> simp [name]

namespace OperatorParameters

variable {parameters left right : OperatorParameters}

theorem parameter?_eq (key : String) (value : Option String) :
    parameter? key value = (value.map Text.quoted).map (Prod.mk key) := by
  cases value <;> rfl

/-- The four keys of the environment, each with its parameter. -/
theorem find?_environment (parameters : OperatorParameters) :
    parameters.environment.find? "OO_CHANNEL" = parameters.channel.map Text.quoted ∧
    parameters.environment.find? "OO_PACKAGE" = parameters.package.map Text.quoted ∧
    parameters.environment.find? "OO_INSTALL_NAMESPACE" =
      parameters.installNamespace.map Text.quoted ∧
    parameters.environment.find? "OO_TARGET_NAMESPACES" =
      parameters.targetNamespaces.map Text.quoted := by
  obtain ⟨_, package, channel, installNamespace, targetNamespaces⟩ := parameters
  unfold environment
  rw [KeyMap.find?_ofList, KeyMap.find?_ofList, KeyMap.find?_ofList, KeyMap.find?_ofList]
  refine ⟨?_, ?_, ?_, ?_⟩
  all_goals
    cases package <;> cases channel <;> cases installNamespace <;> cases targetNamespaces <;> rfl

/-- The environment tells its parameters apart up to white space around them. -/
theorem environment_eq_iff :
    left.environment = right.environment ↔
      left.channel.map Text.trim = right.channel.map Text.trim ∧
      left.package.map Text.trim = right.package.map Text.trim ∧
      left.installNamespace.map Text.trim = right.installNamespace.map Text.trim ∧
      left.targetNamespaces.map Text.trim = right.targetNamespaces.map Text.trim := by
  rw [← Text.map_quoted_eq_iff, ← Text.map_quoted_eq_iff, ← Text.map_quoted_eq_iff,
    ← Text.map_quoted_eq_iff]
  constructor
  · intro same
    obtain ⟨leftChannel, leftPackage, leftInstall, leftTarget⟩ := left.find?_environment
    obtain ⟨rightChannel, rightPackage, rightInstall, rightTarget⟩ := right.find?_environment
    rw [← leftChannel, ← leftPackage, ← leftInstall, ← leftTarget, same]
    exact ⟨rightChannel, rightPackage, rightInstall, rightTarget⟩
  · rintro ⟨channel, package, install, target⟩
    unfold environment
    simp only [parameter?_eq, channel, package, install, target]

/-- The dependencies tell the name of the bundle up to white space around it. -/
theorem dependencies_eq_iff :
    left.dependencies = right.dependencies ↔
      left.bundleName.map Text.trim = right.bundleName.map Text.trim := by
  rw [← Text.map_quoted_eq_iff]
  have find (parameters : OperatorParameters) :
      parameters.dependencies.find? "OO_INDEX" = parameters.bundleName.map Text.quoted := by
    unfold dependencies
    cases parameters.bundleName <;> rfl
  constructor
  · intro same
    rw [← find, ← find, same]
  · intro same
    unfold dependencies
    rw [parameter?_eq, parameter?_eq, same]

/-- Environment and dependencies together keep all parameters, but for white space. -/
theorem trimmed_eq_iff :
    left.trimmed = right.trimmed ↔
      left.environment = right.environment ∧ left.dependencies = right.dependencies := by
  rw [environment_eq_iff, dependencies_eq_iff]
  unfold trimmed
  rw [OperatorParameters.mk.injEq]
  tauto

end OperatorParameters

namespace CustomJob

/-- The job of a test that is no unit test. -/
def ofOther (test : TestPlan) : CustomJob :=
  if test.kind = .operator then installing test else plain test

/-- The jobs are those of the tests that are no unit tests, in their order. -/
theorem filterMap_ofTest? (tests : List TestPlan) :
    tests.filterMap ofTest? = (tests.filter (·.kind ≠ .unit)).map ofOther := by
  induction tests with
  | nil => rfl
  | cons test tests ih =>
      cases kind : test.kind <;> simp [ofTest?, ofOther, kind, ih]

/-- What a job shows of a test apart from the operator: names and commands are trimmed, and
a cloud counts if it is known. -/
theorem plain_eq_iff {left right : TestPlan} :
    plain left = plain right ↔
      Text.trim left.name = Text.trim right.name ∧
      Text.trimOption left.commands = Text.trimOption right.commands ∧
      Cloud.known? left.cloud = Cloud.known? right.cloud ∧
      left.needsClient = right.needsClient := by
  unfold plain
  rw [CustomJob.mk.injEq, Cloud.profile_eq_iff]
  tauto

theorem environment_parameters (test : TestPlan) :
    (test.operator.map (·.environment)).getD KeyMap.empty = test.parameters.environment := by
  unfold TestPlan.parameters
  cases test.operator <;> rfl

theorem dependencies_parameters (test : TestPlan) :
    (test.operator.map (·.dependencies)).getD KeyMap.empty = test.parameters.dependencies := by
  unfold TestPlan.parameters
  cases test.operator <;> rfl

/-- A job that installs the operator shows the parameters of it up to white space around
them. -/
theorem installing_eq_iff {left right : TestPlan} :
    installing left = installing right ↔
      plain left = plain right ∧ left.parameters.trimmed = right.parameters.trimmed := by
  rw [OperatorParameters.trimmed_eq_iff, plain_eq_iff]
  unfold installing plain
  rw [CustomJob.mk.injEq, Cloud.profile_eq_iff, environment_parameters, environment_parameters,
    dependencies_parameters, dependencies_parameters]
  constructor
  · rintro ⟨name, command, cloud, _, client, environment, dependencies⟩
    exact ⟨⟨name, command, cloud, client⟩, Option.some.inj environment,
      Option.some.inj dependencies⟩
  · rintro ⟨⟨name, command, cloud, client⟩, environment, dependencies⟩
    refine ⟨name, command, cloud, ?_, client, congrArg some environment,
      congrArg some dependencies⟩
    rw [← Cloud.operatorWorkflow_known?, cloud, Cloud.operatorWorkflow_known?]

/-- Two tests that are no unit tests have the same job exactly if the kernel says so. -/
theorem ofOther_eq_iff {left right : TestPlan} (leftOther : left.kind ≠ .unit)
    (rightOther : right.kind ≠ .unit) : ofOther left = ofOther right ↔ left.SameJob right := by
  unfold ofOther
  by_cases leftOperator : left.kind = .operator
  · rw [if_pos leftOperator]
    by_cases rightOperator : right.kind = .operator
    · rw [if_pos rightOperator, installing_eq_iff, plain_eq_iff]
      constructor
      · rintro ⟨⟨name, commands, cloud, client⟩, parameters⟩
        exact ⟨leftOperator.trans rightOperator.symm, name, commands, client, cloud,
          fun _ => parameters⟩
      · intro same
        exact ⟨⟨same.name, same.commands, same.cloud, same.needsClient⟩,
          same.parameters leftOperator⟩
    · rw [if_neg rightOperator]
      constructor
      · intro same
        cases congrArg workflow same
      · intro same
        exact absurd (same.kind.symm.trans leftOperator) rightOperator
  · rw [if_neg leftOperator]
    by_cases rightOperator : right.kind = .operator
    · rw [if_pos rightOperator]
      constructor
      · intro same
        cases congrArg workflow same
      · intro same
        exact absurd (same.kind.trans rightOperator) leftOperator
    · rw [if_neg rightOperator, plain_eq_iff]
      have onCluster {test : TestPlan} (other : test.kind ≠ .unit)
          (notOperator : test.kind ≠ .operator) : test.kind = .endToEnd := by
        cases kind : test.kind with
        | unit => exact absurd kind other
        | endToEnd => rfl
        | operator => exact absurd kind notOperator
      constructor
      · rintro ⟨name, commands, cloud, client⟩
        have sameKind := (onCluster leftOther leftOperator).trans
          (onCluster rightOther rightOperator).symm
        exact ⟨sameKind, name, commands, client, cloud,
          fun operator => absurd operator leftOperator⟩
      · intro same
        exact ⟨same.name, same.commands, same.cloud, same.needsClient⟩

/-- The jobs are the same if those of the tests are, one by one. -/
theorem filterMap_ofTest?_eq_iff {left right : Answers} :
    left.tests.filterMap ofTest? = right.tests.filterMap ofTest? ↔
      List.Forall₂ TestPlan.SameJob left.otherTests right.otherTests := by
  rw [filterMap_ofTest?, filterMap_ofTest?]
  refine map_eq_map_iff_forall₂ fun first inLeft second inRight => ?_
  have firstOther := (List.mem_filter.mp inLeft).2
  have secondOther := (List.mem_filter.mp inRight).2
  exact ofOther_eq_iff (of_decide_eq_true firstOther) (of_decide_eq_true secondOther)

end CustomJob

/-- The unit jobs show the names and commands of the unit tests as they are. -/
theorem UnitJob.filterMap_ofTest?_eq_iff {left right : Answers} :
    left.tests.filterMap UnitJob.ofTest? = right.tests.filterMap UnitJob.ofTest? ↔
      left.unitTests = right.unitTests := by
  have jobs (tests : List TestPlan) : tests.filterMap ofTest? =
      ((tests.filter (·.kind = .unit)).map fun test => (test.name, test.commands)).map
        fun unit => ⟨unit.1, unit.2⟩ := by
    induction tests with
    | nil => rfl
    | cons test tests ih => cases kind : test.kind <;> simp [ofTest?, kind, ih]
  rw [jobs, jobs]
  refine List.map_inj_right fun first second same => ?_
  obtain ⟨name, command⟩ := UnitJob.mk.inj same
  exact Prod.ext name command

namespace BundleSection

theorem name_ofPlan (plan : BundlePlan) : (ofPlan plan).name = plan.effectiveName := by
  unfold ofPlan BundlePlan.effectiveName Text.trimOption
  cases plan.name with
  | none => rfl
  | some name =>
      simp only [Option.map_some, Option.getD_some, Text.isEmpty_trim]
      rfl

/-- Two plans have the same section exactly if the kernel says so. -/
theorem ofPlan_eq_iff {left right : BundlePlan} :
    ofPlan left = ofPlan right ↔ left.SameSection right := by
  have sameTexts : left.substitutions.map trimmed = right.substitutions.map trimmed ↔
      List.Forall₂ Substitution.SameTexts left.substitutions right.substitutions := by
    refine map_eq_map_iff_forall₂ fun first _ second _ => ?_
    unfold trimmed
    rw [Substitution.mk.injEq]
    constructor
    · rintro ⟨pullspec, replacement⟩
      exact ⟨pullspec, replacement⟩
    · rintro ⟨pullspec, replacement⟩
      exact ⟨pullspec, replacement⟩
  have fields : ofPlan left = ofPlan right ↔
      (ofPlan left).name = (ofPlan right).name ∧
      Text.trimOption left.dockerfilePath = Text.trimOption right.dockerfilePath ∧
      Text.trimOption left.contextDir = Text.trimOption right.contextDir ∧
      Text.trimOption left.baseIndex = Text.trimOption right.baseIndex ∧
      (left.upgrade.map UpgradeStrategy.name).getD "" =
        (right.upgrade.map UpgradeStrategy.name).getD "" ∧
      left.substitutions.map trimmed = right.substitutions.map trimmed :=
    BundleSection.mk.injEq .. ▸ Iff.rfl
  rw [fields, name_ofPlan, name_ofPlan, UpgradeStrategy.written_inj, sameTexts]
  constructor
  · rintro ⟨name, dockerfilePath, contextDir, baseIndex, upgrade, substitutions⟩
    exact ⟨name, dockerfilePath, contextDir, baseIndex, upgrade, substitutions⟩
  · rintro ⟨name, dockerfilePath, contextDir, baseIndex, upgrade, substitutions⟩
    exact ⟨name, dockerfilePath, contextDir, baseIndex, upgrade, substitutions⟩

/-- Bundles have the same section if both are built and the same, or if none is. -/
theorem map_ofPlan_eq_iff {left right : Option BundlePlan} :
    left.map ofPlan = right.map ofPlan ↔ Option.Rel BundlePlan.SameSection left right := by
  constructor
  · intro same
    rcases left with _ | left
    · rcases right with _ | right
      · exact .none
      · cases same
    · rcases right with _ | right
      · cases same
      · exact .some (ofPlan_eq_iff.mp (Option.some.inj same))
  · intro related
    cases related with
    | some same => exact congrArg some (ofPlan_eq_iff.mpr same)
    | none => rfl

end BundleSection

/-- Under a name stands the last image of that name. -/
theorem Document.find?_imagesByName (images : List ImageTag) (name : String) :
    (Document.imagesByName images).find? name = images.reverse.find? (·.name = name) := by
  unfold imagesByName
  rw [KeyMap.find?_ofList, ← List.map_reverse]
  induction images.reverse with
  | nil => rfl
  | cons image rest ih =>
      rw [List.map_cons, KeyMap.lookup_cons, ih, List.find?_cons]
      by_cases same : name = image.name
      · simp [same]
      · simp [same, Ne.symm same]

/-- The images of a document tell the last one of every name. -/
theorem Document.imagesByName_eq_iff {left right : Answers} :
    imagesByName left.build.baseImages = imagesByName right.build.baseImages ↔
      ∀ name, left.lastImage? name = right.lastImage? name := by
  constructor
  · intro same name
    unfold Answers.lastImage?
    rw [← find?_imagesByName, ← find?_imagesByName, same]
  · intro same
    refine KeyMap.ext_find? fun name => ?_
    rw [find?_imagesByName, find?_imagesByName]
    exact same name

/-- Two sets of answers have one document exactly if they agree on what a document is made
of. -/
theorem Document.ofAnswers_eq_iff (left right : Answers) :
    Document.ofAnswers left = Document.ofAnswers right ↔ left.SameDocument right := by
  have and_eq_and {promotes leftFlag rightFlag : Bool} :
      (promotes && leftFlag) = (promotes && rightFlag) ↔
        (promotes = true → leftFlag = rightFlag) := by
    cases promotes <;> simp
  unfold Document.ofAnswers
  rw [Document.mk.injEq, UnitJob.filterMap_ofTest?_eq_iff, CustomJob.filterMap_ofTest?_eq_iff,
    BundleSection.map_ofPlan_eq_iff, Document.imagesByName_eq_iff, ReleaseStream.name_inj]
  constructor
  · rintro ⟨org, repo, branch, importPath, promotes, inRelease, needsBase, needsOs, goVersion,
      images, buildCommands, testBuildCommands, unitTests, otherTests, bundle, stream, version⟩
    rw [← promotes, and_eq_and] at inRelease needsBase needsOs
    exact { org, repo, branch, importPath, goVersion, buildCommands, testBuildCommands, promotes,
            stream, version, images, unitTests, otherTests, bundle
            promotion := fun holds => ⟨inRelease holds, needsBase holds, needsOs holds⟩ }
  · intro same
    refine ⟨same.org, same.repo, same.branch, same.importPath, same.promotes, ?_, ?_, ?_,
      same.goVersion, same.images, same.buildCommands, same.testBuildCommands, same.unitTests,
      same.otherTests, same.bundle, same.stream, same.version⟩
    · rw [← same.promotes, and_eq_and]
      exact fun holds => (same.promotion holds).1
    · rw [← same.promotes, and_eq_and]
      exact fun holds => (same.promotion holds).2.1
    · rw [← same.promotes, and_eq_and]
      exact fun holds => (same.promotion holds).2.2

end Onboarding
