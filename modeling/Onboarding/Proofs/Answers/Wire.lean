import Onboarding.Answers.Wire
import Onboarding.Proofs.Json.Reading

/-! # Answers are read back from their wire form

What is written of some answers is an object that holds them, part by part, and is read as
those answers (`Onboarding.Answers.ofJson?_toJson`). The one exception are clouds under a name
that is read otherwise than it is written, which no reader produces
(`Onboarding.Answers.CloudsCanonical`).
-/

namespace Onboarding

open Json

section Shapes

variable {ν ε : Type} (source : Source ν ε)

/-- The three texts of an image can be entered in any order. -/
theorem ImageTag.lawful_shape : (shape source).Lawful := by
  constructor <;> simp [shape]

/-- The two texts of a substitution can be entered in either order. -/
theorem Substitution.lawful_shape (title : String) : (shape source title).Lawful := by
  constructor <;> simp [shape]

/-- The stream and the version of a release can be entered in either order. -/
theorem ReleaseChoice.lawful_shape : (shape source).Lawful := by
  constructor <;> simp [shape]

/-- The flag of a bundle can be entered before its texts or after them. -/
theorem FlaggedBundlePlan.lawful_shape : (shape source).Lawful := by
  constructor <;> simp [shape]

/-- The fields of build parameters can be entered in any order. -/
theorem BuildPlan.lawful_shape : (shape source).Lawful := by
  constructor <;> simp [shape]

/-- The parameters of an operator can be entered in any order. -/
theorem OperatorParameters.lawful_shape : (shape source).Lawful := by
  constructor <;> simp [shape]

/-- The fields of a test can be entered in any order. -/
theorem TestPlan.lawful_shape : (shape source).Lawful := by
  constructor <;> simp [shape]

/-- The fields of answers can be entered in any order. -/
theorem Answers.lawful_shape : (shape source).Lawful := by
  constructor <;> simp [shape]

end Shapes

/-- A stream is read back from its name. -/
theorem ReleaseStream.read_toJson (stream : ReleaseStream) :
    read Json.source stream.toJson = .ok stream := by
  cases stream <;> rfl

/-- A strategy is read back from its name. -/
theorem UpgradeStrategy.read_toJson (strategy : UpgradeStrategy) :
    read Json.source strategy.toJson = .ok strategy := by
  cases strategy <;> rfl

/-- A kind of test is read back from its name. -/
theorem TestKind.read_toJson (kind : TestKind) : read Json.source kind.toJson = .ok kind := by
  cases kind <;> rfl

/-- A cloud is read back from its name if it is canonical. -/
theorem Cloud.read_toJson {cloud : Cloud} (canonical : cloud.IsCanonical) :
    read Json.source cloud.toJson = .ok cloud :=
  congrArg Except.ok canonical

namespace ImageTag

/-- What is written of an image holds it. -/
theorem holds_toJson (image : ImageTag) : image.toJson.Holds (shape Json.source) image where
  distinct := by simp [toJson, members]
  present := by simp [shape, toJson, member?, List.lookup_cons]
  fills := by
    refine
      .cons (takes_written image.name (.string image.name) ?_ rfl) <|
      .cons (takes_written image.project (.string image.project) ?_ rfl) <|
      .cons (takes_written image.tag (.string image.tag) ?_ rfl) .nil
    all_goals simp [toJson, member?, List.lookup_cons]

/-- An image is read back. -/
theorem read_toJson (image : ImageTag) : read Json.source image.toJson = .ok image :=
  image.holds_toJson.read_object (lawful_shape Json.source)

end ImageTag

namespace Substitution

/-- What is written of a substitution holds it, under either title. -/
theorem holds_toJson (substitution : Substitution) (title : String) :
    substitution.toJson.Holds (shape Json.source title) substitution where
  distinct := by simp [toJson, members]
  present := by simp [shape, toJson, member?, List.lookup_cons]
  fills := by
    refine
      .cons (takes_written substitution.pullspec (.string substitution.pullspec) ?_ rfl) <|
      .cons (takes_written substitution.replacement (.string substitution.replacement) ?_ rfl) .nil
    all_goals simp [toJson, member?, List.lookup_cons]

/-- A substitution of answers is read back. -/
theorem read_toJson (substitution : Substitution) :
    read Json.source substitution.toJson = .ok substitution :=
  (substitution.holds_toJson _).read_object (lawful_shape Json.source _)

end Substitution

namespace ReleaseChoice

/-- What is written of a release holds it, with a version or without. -/
theorem holds_toJson (release : ReleaseChoice) :
    release.toJson.Holds (shape Json.source) release where
  distinct := by
    have inOrder : (release.toJson.members.map Prod.fst).Sublist ["type", "version"] :=
      keys_optionalMember.cons_cons "type"
    exact inOrder.nodup (by simp)
  present := by simp [shape]
  fills := by
    refine
      .cons (takes_written release.stream release.stream.toJson ?_ release.stream.read_toJson) <|
      .cons (takes_optional release.version .string ?_ (fun _ _ => rfl) rfl) .nil
    all_goals simp [toJson, member?, lookup_optionalMember, List.lookup_cons]

/-- A release is read back. -/
theorem read_toJson (release : ReleaseChoice) : read Json.source release.toJson = .ok release :=
  release.holds_toJson.read_object (lawful_shape Json.source)

end ReleaseChoice

namespace FlaggedBundlePlan

/-- A bundle plan, or a blank one if none counts, with the flag that says so. -/
def ofPlan? (plan? : Option BundlePlan) : FlaggedBundlePlan :=
  ⟨plan?.isSome, plan?.getD BundlePlan.blank⟩

/-- What is written of a bundle holds it, with its flag; the null that is written of none
holds that none is built. -/
theorem holds_toJson? (plan : Option BundlePlan) :
    (BundlePlan.toJson? plan).Holds (shape Json.source) (ofPlan? plan) := by
  cases plan with
  | none =>
      exact ⟨List.Pairwise.nil, by simp [shape], .of_absent fun _ _ => rfl⟩
  | some plan =>
      refine ⟨?_, by simp [shape], ?_⟩
      · have inOrder : (plan.toJson.members.map Prod.fst).Sublist
            (["isOperator"] ++ ["name"] ++ ["dockerfilePath"] ++ ["contextDir"] ++ ["baseIndex"] ++
              ["updateGraph"] ++ ["substitutions"]) :=
          keys_append <| keys_append_optionalMember <| keys_append_optionalMember <|
            keys_append_optionalMember <| keys_append_optionalMember <|
            keys_append_optionalMember <| List.Sublist.refl _
        exact inOrder.nodup (by simp)
      · have substitutions : Json.source.list (Substitution.read Json.source)
            (Json.ofList plan.substitutions Substitution.toJson) = .ok plan.substitutions :=
          readList_ofList fun substitution _ => substitution.read_toJson
        have upgrade (strategy : UpgradeStrategy) (_ : plan.upgrade = some strategy) :
            Json.source.optional (UpgradeStrategy.read Json.source) strategy.toJson =
              .ok (some strategy) :=
          congrArg (Except.map some) strategy.read_toJson
        refine
          .cons (takes_written true (.bool true) ?_ rfl) <|
          .cons (takes_optional plan.name .string ?_ (fun _ _ => rfl) rfl) <|
          .cons (takes_optional plan.dockerfilePath .string ?_ (fun _ _ => rfl) rfl) <|
          .cons (takes_optional plan.contextDir .string ?_ (fun _ _ => rfl) rfl) <|
          .cons (takes_optional plan.baseIndex .string ?_ (fun _ _ => rfl) rfl) <|
          .cons (takes_optional plan.upgrade UpgradeStrategy.toJson ?_ upgrade rfl) <|
          .cons (takes_written plan.substitutions _ ?_ substitutions) .nil
        all_goals
          simp [BundlePlan.toJson?, BundlePlan.toJson, member?, lookup_optionalMember,
            List.lookup_append, List.lookup_cons]

end FlaggedBundlePlan

namespace BundlePlan

/-- A bundle plan is read from an object that holds it with its flag, if it counts. -/
theorem read?_object {members : List (String × Json)} {flagged : FlaggedBundlePlan}
    (holds : (object members).Holds (FlaggedBundlePlan.shape Json.source) flagged) :
    read? Json.source (object members) = .ok flagged.plan? := by
  have reads := holds.read_object (FlaggedBundlePlan.lawful_shape Json.source)
  change (((readRecord _ (object members)).map some).map fun flagged =>
    flagged.bind FlaggedBundlePlan.plan?) = _
  rw [reads]
  rfl

/-- A bundle is read back, and so is that there is none. -/
theorem read?_toJson? (plan : Option BundlePlan) :
    read? Json.source (toJson? plan) = .ok plan := by
  cases plan with
  | none => rfl
  | some plan => exact read?_object (FlaggedBundlePlan.holds_toJson? (some plan))

end BundlePlan

namespace BuildPlan

/-- What is written of build parameters holds them, whatever is left out. -/
theorem holds_toJson (plan : BuildPlan) : plan.toJson.Holds (shape Json.source) plan where
  distinct := by
    have inOrder : (plan.toJson.members.map Prod.fst).Sublist
        (["buildPromotes", "partOfOSRelease", "needsBase", "needsOS"] ++ ["goVersion"] ++
          ["canonicalGoRepository"] ++ ["buildCommands"] ++ ["testBuildCommands"] ++
          ["baseImages", "operatorConfig", "release"]) :=
      keys_append <| keys_append_optionalMember <| keys_append_optionalMember <|
        keys_append_optionalMember <| keys_append_optionalMember <| List.Sublist.refl _
    exact inOrder.nodup (by simp)
  present := by simp [shape]
  fills := by
    have baseImages : Json.source.list (ImageTag.read Json.source)
        (Json.ofList plan.baseImages ImageTag.toJson) = .ok plan.baseImages :=
      readList_ofList fun image _ => image.read_toJson
    refine
      .cons (takes_written plan.promotes (.bool plan.promotes) ?_ rfl) <|
      .cons (takes_written plan.inRelease (.bool plan.inRelease) ?_ rfl) <|
      .cons (takes_written plan.needsBase (.bool plan.needsBase) ?_ rfl) <|
      .cons (takes_written plan.needsOs (.bool plan.needsOs) ?_ rfl) <|
      .cons (takes_optional plan.goVersion .string ?_ (fun _ _ => rfl) rfl) <|
      .cons (takes_optional plan.importPath .string ?_ (fun _ _ => rfl) rfl) <|
      .cons (takes_optional plan.buildCommands .string ?_ (fun _ _ => rfl) rfl) <|
      .cons (takes_optional plan.testBuildCommands .string ?_ (fun _ _ => rfl) rfl) <|
      .cons (takes_written plan.baseImages _ ?_ baseImages) <|
      .cons (takes_written plan.bundle _ ?_ (BundlePlan.read?_toJson? plan.bundle)) <|
      .cons (takes_written plan.release _ ?_ plan.release.read_toJson) .nil
    all_goals
      simp [toJson, member?, lookup_optionalMember, List.lookup_append, List.lookup_cons]

/-- Build parameters are read back. -/
theorem read_toJson (plan : BuildPlan) : read Json.source plan.toJson = .ok plan :=
  plan.holds_toJson.read_object (lawful_shape Json.source)

end BuildPlan

namespace OperatorParameters

/-- What is written of an operator holds its parameters. -/
theorem holds_toJson (parameters : OperatorParameters) :
    parameters.toJson.Holds (shape Json.source) parameters where
  distinct := by
    have inOrder : (parameters.toJson.members.map Prod.fst).Sublist
        (["bundleName"] ++ ["package"] ++ ["channel"] ++ ["installNamespace"] ++
          ["targetNamespaces"]) :=
      keys_append_optionalMember <| keys_append_optionalMember <| keys_append_optionalMember <|
        keys_append_optionalMember keys_optionalMember
    exact inOrder.nodup (by simp)
  present := by simp [shape]
  fills := by
    refine
      .cons (takes_optional parameters.bundleName .string ?_ (fun _ _ => rfl) rfl) <|
      .cons (takes_optional parameters.package .string ?_ (fun _ _ => rfl) rfl) <|
      .cons (takes_optional parameters.channel .string ?_ (fun _ _ => rfl) rfl) <|
      .cons (takes_optional parameters.installNamespace .string ?_ (fun _ _ => rfl) rfl) <|
      .cons (takes_optional parameters.targetNamespaces .string ?_ (fun _ _ => rfl) rfl) .nil
    all_goals simp [toJson, member?, lookup_optionalMember, List.lookup_append]

/-- The parameters of an operator are read back. -/
theorem read_toJson (parameters : OperatorParameters) :
    read Json.source parameters.toJson = .ok parameters :=
  parameters.holds_toJson.read_object (lawful_shape Json.source)

end OperatorParameters

namespace TestPlan

/-- A test whose cloud, if it has one, is read as it is written. -/
def CloudCanonical (test : TestPlan) : Prop :=
  ∀ cloud, test.cloud = some cloud → cloud.IsCanonical

/-- What is written of a test holds it, since its cloud is read back. -/
theorem holds_toJson {test : TestPlan} (canonical : test.CloudCanonical) :
    test.toJson.Holds (shape Json.source) test where
  distinct := by
    have inOrder : (test.toJson.members.map Prod.fst).Sublist
        (["name", "type", "requiresBuiltBinaries", "requiresTestBinaries", "requiresCli"] ++
          ["testCommands"] ++ ["cloudProvider"] ++ ["operatorConfig"] ++
          ["env", "dependencies"]) :=
      keys_append <| keys_append_optionalMember <| keys_append_optionalMember <|
        keys_append_optionalMember <| List.Sublist.refl _
    exact inOrder.nodup (by simp)
  present := by simp [shape]
  fills := by
    have cloud (content : Cloud) (isCloud : test.cloud = some content) :
        Json.source.optional (Cloud.read Json.source) content.toJson = .ok (some content) :=
      congrArg (Except.map some) (Cloud.read_toJson (canonical content isCloud))
    have operator (content : OperatorParameters) (_ : test.operator = some content) :
        Json.source.optional (OperatorParameters.read Json.source) content.toJson =
          .ok (some content) :=
      congrArg (Except.map some) content.read_toJson
    have texts (map : KeyMap String) :
        Json.source.map readText (ofMap map .string) = .ok map :=
      readMap_ofMap fun _ _ => rfl
    refine
      .cons (takes_written test.name (.string test.name) ?_ rfl) <|
      .cons (takes_written test.kind _ ?_ test.kind.read_toJson) <|
      .cons (takes_written test.needsBinaries (.bool test.needsBinaries) ?_ rfl) <|
      .cons (takes_written test.needsTestBinaries (.bool test.needsTestBinaries) ?_ rfl) <|
      .cons (takes_written test.needsClient (.bool test.needsClient) ?_ rfl) <|
      .cons (takes_optional test.commands .string ?_ (fun _ _ => rfl) rfl) <|
      .cons (takes_optional test.cloud Cloud.toJson ?_ cloud rfl) <|
      .cons (takes_optional test.operator OperatorParameters.toJson ?_ operator rfl) <|
      .cons (takes_written test.environment _ ?_ (texts test.environment)) <|
      .cons (takes_written test.dependencies _ ?_ (texts test.dependencies)) .nil
    all_goals
      simp [toJson, member?, lookup_optionalMember, List.lookup_append, List.lookup_cons]

/-- A test is read back if its cloud is canonical. -/
theorem read_toJson {test : TestPlan} (canonical : test.CloudCanonical) :
    read Json.source test.toJson = .ok test :=
  (holds_toJson canonical).read_object (lawful_shape Json.source)

end TestPlan

namespace Answers

/-- Answers whose tests have clouds that are read as they are written. -/
def CloudsCanonical (answers : Answers) : Prop :=
  ∀ test ∈ answers.tests, test.CloudCanonical

/-- What is written of answers holds them, since their clouds are read back. -/
theorem holds_toJson {answers : Answers} (canonical : answers.CloudsCanonical) :
    answers.toJson.Holds (shape Json.source) answers where
  distinct := by simp [toJson, members]
  present := by simp [shape]
  fills := by
    have tests : Json.source.list (TestPlan.read Json.source)
        (Json.ofList answers.tests TestPlan.toJson) = .ok answers.tests :=
      readList_ofList fun test member => TestPlan.read_toJson (canonical test member)
    refine
      .cons (takes_written answers.org (.string answers.org) ?_ rfl) <|
      .cons (takes_written answers.repo (.string answers.repo) ?_ rfl) <|
      .cons (takes_written answers.branch (.string answers.branch) ?_ rfl) <|
      .cons (takes_written answers.build _ ?_ answers.build.read_toJson) <|
      .cons (takes_written answers.tests _ ?_ tests) .nil
    all_goals simp [toJson, member?, List.lookup_cons]

/-- Answers are read back from their wire form. -/
theorem ofJson?_toJson {answers : Answers} (canonical : answers.CloudsCanonical) :
    ofJson? answers.toJson = .ok answers :=
  (holds_toJson canonical).read_object (lawful_shape Json.source)

end Answers

end Onboarding
