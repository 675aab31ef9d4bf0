import Onboarding.Edit.FieldPath
import Onboarding.Proofs.Answers.Wire

/-! # Paths of the wire form

The fields that a path can name are those that hold a scalar in the wire form of some answers,
outside every list (`Onboarding.FieldPath.exists_keys_eq_iff`). A text names one of them if it is
made of the keys that lead to the scalar (`Onboarding.FieldPath.ofText?_eq_some_iff`), and every
other text names none (`Onboarding.FieldPath.ofText?_eq_none_iff`).
-/

namespace Onboarding

namespace Json

/-- Whether a value is neither nothing nor made of others. -/
def isScalar : Json → Bool
  | bool _ | number _ | string _ => true
  | null | array _ | object _ => false

/-- At the end of a path of keys stands a scalar. -/
def HasScalarAt (json : Json) (keys : List String) : Prop :=
  ∃ value, json.at? keys = some value ∧ value.isScalar = true

variable {keys : List String}

/-- A value without members has a scalar nowhere but at itself. -/
theorem HasScalarAt.eq_nil {json : Json} (has : json.HasScalarAt keys)
    (noObject : json.members = []) : keys = [] := by
  cases keys with
  | nil => rfl
  | cons key keys =>
      obtain ⟨value, found, _⟩ := has
      rw [at?, member?_eq_lookup, noObject] at found
      cases found

@[simp] theorem hasScalarAt_string {value : String} :
    (string value).HasScalarAt keys ↔ keys = [] := by
  refine ⟨fun has => has.eq_nil rfl, ?_⟩
  rintro rfl
  exact ⟨_, rfl, rfl⟩

@[simp] theorem hasScalarAt_bool {value : Bool} : (bool value).HasScalarAt keys ↔ keys = [] := by
  refine ⟨fun has => has.eq_nil rfl, ?_⟩
  rintro rfl
  exact ⟨_, rfl, rfl⟩

/-- Nothing is no scalar. -/
@[simp] theorem not_hasScalarAt_null : ¬null.HasScalarAt keys := by
  intro has
  obtain rfl := has.eq_nil rfl
  obtain ⟨_, ⟨⟩, ⟨⟩⟩ := has

@[simp] theorem not_hasScalarAt_array {items : List Json} : ¬(array items).HasScalarAt keys := by
  intro has
  obtain rfl := has.eq_nil rfl
  obtain ⟨_, ⟨⟩, ⟨⟩⟩ := has

/-- A path leads through one of some members to a scalar. -/
def HasScalarAmong (members : List (String × Json)) (keys : List String) : Prop :=
  ∃ member ∈ members, ∃ rest, keys = member.1 :: rest ∧ member.2.HasScalarAt rest

section Among

variable {key : String} {value : Json} {members others : List (String × Json)}

/-- A scalar in an object is in one of its members. -/
theorem HasScalarAt.among (has : (object members).HasScalarAt keys) :
    HasScalarAmong members keys := by
  obtain ⟨scalar, found, isScalar⟩ := has
  cases keys with
  | nil =>
      cases found
      cases isScalar
  | cons key rest =>
      obtain ⟨value, isMember, found⟩ := Option.bind_eq_some_iff.mp found
      obtain ⟨earlier, later, isSplit, _⟩ := List.lookup_eq_some_iff.mp isMember
      refine ⟨(key, value), ?_, rest, rfl, scalar, found, isScalar⟩
      rw [isSplit]
      exact List.mem_append_right _ List.mem_cons_self

@[simp] theorem not_hasScalarAmong_nil : ¬HasScalarAmong [] keys := by
  simp [HasScalarAmong]

/-- A scalar is in the first member, under its key, or in one of the others. -/
@[simp] theorem hasScalarAmong_cons :
    HasScalarAmong ((key, value) :: members) keys ↔
      (∃ rest, keys = key :: rest ∧ value.HasScalarAt rest) ∨ HasScalarAmong members keys := by
  simp [HasScalarAmong]

/-- A scalar is among the members of either part. -/
@[simp] theorem hasScalarAmong_append :
    HasScalarAmong (members ++ others) keys ↔
      HasScalarAmong members keys ∨ HasScalarAmong others keys := by
  simp [HasScalarAmong, or_and_right, exists_or]

/-- A member that may be left out has a scalar if it is there. -/
@[simp] theorem hasScalarAmong_optionalMember {α : Type} {content : Option α} {write : α → Json} :
    HasScalarAmong (optionalMember key content write) keys ↔
      ∃ rest, keys = key :: rest ∧ ∃ present, content = some present ∧
        (write present).HasScalarAt rest := by
  cases content with
  | none => simp [optionalMember]
  | some present => simp [optionalMember]

end Among

end Json

open Json

/-- A release has scalars under its two keys only. -/
theorem ReleaseChoice.keys_of_hasScalarAt {release : ReleaseChoice} {keys : List String}
    (has : release.toJson.HasScalarAt keys) : keys = ["type"] ∨ keys = ["version"] := by
  have among : keys = ["type"] ∨ keys = ["version"] ∧ ∃ text, release.version = some text := by
    simpa [ReleaseStream.toJson] using has.among
  rcases among with isType | ⟨isVersion, _⟩
  · exact .inl isType
  · exact .inr isVersion

/-- A bundle has scalars under its flag, its texts and its strategy only: the substitutions
stand in an array. -/
theorem BundlePlan.keys_of_hasScalarAt {plan : Option BundlePlan} {keys : List String}
    (has : (toJson? plan).HasScalarAt keys) :
    keys = ["isOperator"] ∨ (∃ field : BundleText, keys = [field.key]) ∨
      keys = ["updateGraph"] := by
  cases plan with
  | none => exact absurd has not_hasScalarAt_null
  | some plan =>
      have among : keys = ["isOperator"] ∨
          (keys = ["name"] ∧ ∃ text, plan.name = some text) ∨
          (keys = ["dockerfilePath"] ∧ ∃ text, plan.dockerfilePath = some text) ∨
          (keys = ["contextDir"] ∧ ∃ text, plan.contextDir = some text) ∨
          (keys = ["baseIndex"] ∧ ∃ text, plan.baseIndex = some text) ∨
          keys = ["updateGraph"] ∧ ∃ strategy, plan.upgrade = some strategy := by
        simpa [UpgradeStrategy.toJson, Json.ofList] using has.among
      rcases among with isFlag | ⟨isName, _⟩ | ⟨isPath, _⟩ | ⟨isDirectory, _⟩ | ⟨isIndex, _⟩ |
        ⟨isUpgrade, _⟩
      · exact .inl isFlag
      · exact .inr (.inl ⟨.name, isName⟩)
      · exact .inr (.inl ⟨.dockerfilePath, isPath⟩)
      · exact .inr (.inl ⟨.contextDir, isDirectory⟩)
      · exact .inr (.inl ⟨.baseIndex, isIndex⟩)
      · exact .inr (.inr isUpgrade)

/-- Build parameters have scalars under their flags and texts, and those of the bundle and
of the release. -/
theorem BuildPlan.keys_of_hasScalarAt {plan : BuildPlan} {keys : List String}
    (has : plan.toJson.HasScalarAt keys) :
    (∃ flag : PromotionFlag, keys = [flag.key]) ∨ (∃ field : BuildText, keys = [field.key]) ∨
      (∃ rest, keys = "operatorConfig" :: rest ∧
        (BundlePlan.toJson? plan.bundle).HasScalarAt rest) ∨
      ∃ rest, keys = "release" :: rest ∧ plan.release.toJson.HasScalarAt rest := by
  have among : keys = ["buildPromotes"] ∨ keys = ["partOfOSRelease"] ∨ keys = ["needsBase"] ∨
      keys = ["needsOS"] ∨
      (keys = ["goVersion"] ∧ ∃ text, plan.goVersion = some text) ∨
      (keys = ["canonicalGoRepository"] ∧ ∃ text, plan.importPath = some text) ∨
      (keys = ["buildCommands"] ∧ ∃ text, plan.buildCommands = some text) ∨
      (keys = ["testBuildCommands"] ∧ ∃ text, plan.testBuildCommands = some text) ∨
      (∃ rest, keys = "operatorConfig" :: rest ∧
        (BundlePlan.toJson? plan.bundle).HasScalarAt rest) ∨
      ∃ rest, keys = "release" :: rest ∧ plan.release.toJson.HasScalarAt rest := by
    simpa [Json.ofList] using has.among
  rcases among with promotes | inRelease | needsBase | needsOs | ⟨goVersion, _⟩ | ⟨importPath, _⟩ |
    ⟨buildCommands, _⟩ | ⟨testBuildCommands, _⟩ | inBundle | inChoice
  · exact .inl ⟨.promotes, promotes⟩
  · exact .inl ⟨.inRelease, inRelease⟩
  · exact .inl ⟨.needsBase, needsBase⟩
  · exact .inl ⟨.needsOs, needsOs⟩
  · exact .inr (.inl ⟨.goVersion, goVersion⟩)
  · exact .inr (.inl ⟨.importPath, importPath⟩)
  · exact .inr (.inl ⟨.buildCommands, buildCommands⟩)
  · exact .inr (.inl ⟨.testBuildCommands, testBuildCommands⟩)
  · exact .inr (.inr (.inl inBundle))
  · exact .inr (.inr (.inr inChoice))

namespace Answers

/-- A path to a scalar in the wire form of some answers, outside every list. -/
def IsScalarPath (keys : List String) : Prop :=
  ∃ answers : Answers, answers.toJson.HasScalarAt keys

/-- Answers in whose wire form every scalar outside the lists is present. -/
def filled : Answers :=
  { blank with
    build := { BuildPlan.blank with
      goVersion := some ""
      importPath := some ""
      buildCommands := some ""
      testBuildCommands := some ""
      bundle := some ⟨some "", some "", some "", some "", some .semver, []⟩
      release := ⟨.none, some ""⟩ } }

end Answers

namespace FieldPath

/-- In answers where everything is filled in, every field is a scalar. -/
theorem hasScalarAt_keys (field : FieldPath) : Answers.filled.toJson.HasScalarAt field.keys := by
  cases field with
  | identity field => cases field <;> exact ⟨_, rfl, rfl⟩
  | promotion flag => cases flag <;> exact ⟨_, rfl, rfl⟩
  | buildText field => cases field <;> exact ⟨_, rfl, rfl⟩
  | bundleText field => cases field <;> exact ⟨_, rfl, rfl⟩
  | bundleBuilt | upgrade | releaseStream | releaseVersion => exact ⟨_, rfl, rfl⟩

/-- Wherever answers have a scalar, there is a field. -/
theorem exists_of_hasScalarAt {answers : Answers} {keys : List String}
    (has : answers.toJson.HasScalarAt keys) : ∃ field : FieldPath, field.keys = keys := by
  have among : keys = ["org"] ∨ keys = ["repo"] ∨ keys = ["branch"] ∨
      ∃ rest, keys = "buildSettings" :: rest ∧ answers.build.toJson.HasScalarAt rest := by
    simpa [Json.ofList] using has.among
  rcases among with rfl | rfl | rfl | ⟨_, rfl, inBuild⟩
  · exact ⟨.identity .org, rfl⟩
  · exact ⟨.identity .repo, rfl⟩
  · exact ⟨.identity .branch, rfl⟩
  · rcases BuildPlan.keys_of_hasScalarAt inBuild with
      ⟨flag, rfl⟩ | ⟨field, rfl⟩ | ⟨_, rfl, inBundle⟩ | ⟨_, rfl, inRelease⟩
    · exact ⟨.promotion flag, rfl⟩
    · exact ⟨.buildText field, rfl⟩
    · rcases BundlePlan.keys_of_hasScalarAt inBundle with rfl | ⟨field, rfl⟩ | rfl
      · exact ⟨.bundleBuilt, rfl⟩
      · exact ⟨.bundleText field, rfl⟩
      · exact ⟨.upgrade, rfl⟩
    · rcases ReleaseChoice.keys_of_hasScalarAt inRelease with rfl | rfl
      · exact ⟨.releaseStream, rfl⟩
      · exact ⟨.releaseVersion, rfl⟩

/-- The keys of the fields that can be named are the paths to scalars. -/
theorem exists_keys_eq_iff {keys : List String} :
    (∃ field : FieldPath, field.keys = keys) ↔ Answers.IsScalarPath keys := by
  constructor
  · rintro ⟨field, rfl⟩
    exact ⟨_, field.hasScalarAt_keys⟩
  · rintro ⟨answers, has⟩
    exact exists_of_hasScalarAt has

/-- Every field is among those that have a path. -/
theorem mem_all (field : FieldPath) : field ∈ all := by
  cases field with
  | identity field => cases field <;> decide
  | promotion flag => cases flag <;> decide
  | buildText field => cases field <;> decide
  | bundleText field => cases field <;> decide
  | bundleBuilt | upgrade | releaseStream | releaseVersion => decide

/-- Different fields have different paths. -/
theorem text_inj {left right : FieldPath} (same : left.text = right.text) : left = right := by
  have distinct : ∀ left ∈ all, ∀ right ∈ all, left.text = right.text → left = right := by
    decide +kernel
  exact distinct left left.mem_all right right.mem_all same

/-- A text names a field exactly if it is the keys of the field, joined by points. -/
theorem ofText?_eq_some_iff {text : String} {field : FieldPath} :
    ofText? text = some field ↔ ".".intercalate field.keys = text := by
  unfold ofText?
  constructor
  · intro found
    have isText := List.find?_some found
    exact beq_iff_eq.mp isText
  · rintro rfl
    have isThere : (all.find? fun path => path.text == field.text).isSome = true :=
      List.find?_isSome.mpr ⟨field, field.mem_all, beq_self_eq_true _⟩
    obtain ⟨other, found⟩ := Option.isSome_iff_exists.mp isThere
    have isText := List.find?_some found
    obtain rfl : other = field := text_inj (beq_iff_eq.mp isText)
    exact found

/-- A text names no field exactly if it is not the path to any scalar. -/
theorem ofText?_eq_none_iff {text : String} :
    ofText? text = none ↔ ∀ keys, Answers.IsScalarPath keys → text ≠ ".".intercalate keys := by
  rw [Option.eq_none_iff_forall_ne_some]
  constructor
  · rintro unknown keys isPath rfl
    obtain ⟨field, rfl⟩ := exists_keys_eq_iff.mpr isPath
    exact unknown field (ofText?_eq_some_iff.mpr rfl)
  · intro unknown field found
    exact unknown field.keys ⟨_, field.hasScalarAt_keys⟩ (ofText?_eq_some_iff.mp found).symm

end FieldPath

end Onboarding
