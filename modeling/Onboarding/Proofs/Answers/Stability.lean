import Onboarding.Proofs.Answers.Wire
import Onboarding.Proofs.Json.Rearrangement

/-! # Answers are stable

Reading answers and writing them again loses nothing that was read: whatever answers were read
from, an array or an object with parts left out, they are read back from what is written of them,
whatever the order in which the members of an object are kept (`Onboarding.answers_read_stably`).
The answers that any reader yields are those that know the known clouds by their names; only
others are written as something that is read otherwise.
-/

namespace Onboarding

open Json

/-! ## Which clouds are read -/

namespace Cloud

@[simp] theorem name_ofName (name : String) : (ofName name).name = name := by
  unfold ofName
  split
  · rename_i isAws
    exact isAws.symm
  · split
    · rename_i isAzure
      exact isAzure.symm
    · split
      · rename_i isGcp
        exact isGcp.symm
      · rfl

/-- A cloud that is read is named as it would be read again. -/
theorem isCanonical_ofName (name : String) : (ofName name).IsCanonical :=
  congrArg ofName (name_ofName name)

/-- A cloud is read as it is written unless it is another one under the name of a known one. -/
theorem isCanonical_iff {cloud : Cloud} :
    cloud.IsCanonical ↔ ∀ name, cloud = .other name → name ∉ ["Aws", "Azure", "Gcp"] := by
  cases cloud with
  | aws | azure | gcp => exact iff_of_true rfl fun name isOther => by cases isOther
  | other name =>
      constructor
      · intro canonical text isOther member
        cases isOther
        simp only [List.mem_cons, List.not_mem_nil, or_false] at member
        rcases member with rfl | rfl | rfl <;> cases canonical
      · intro unknown
        have isUnknown := unknown name rfl
        simp only [List.mem_cons, List.not_mem_nil, or_false, not_or] at isUnknown
        obtain ⟨notAws, notAzure, notGcp⟩ := isUnknown
        change ofName name = other name
        rw [ofName, if_neg notAws, if_neg notAzure, if_neg notGcp]

/-- Whatever cloud is read, it is canonical. -/
theorem yields_read : Yields (read Json.source) IsCanonical := by
  intro json cloud reads
  cases json with
  | string name =>
      cases reads
      exact isCanonical_ofName name
  | null | bool _ | number _ | array _ | object _ => cases reads

end Cloud

/-- The cloud of a test that is read is canonical. -/
theorem TestPlan.yields_read : Yields (read Json.source) CloudCanonical := by
  refine yields_record (fun cloud isCloud => by cases isCloud) ?_
  have untouched {α : Type} {key : String} {readPart : Json → Except Misfit α}
      {set : TestPlan → α → TestPlan} (sameCloud : ∀ test part, (set test part).cloud = test.cloud) :
      (Field.of .defaulted key readPart set).Keeps CloudCanonical := by
    refine Field.keeps_of fun _ part test _ canonical cloud isCloud => ?_
    exact canonical cloud (sameCloud test part ▸ isCloud)
  have cloudField : (Field.of .defaulted "cloudProvider"
      (Json.source.optional (Cloud.read Json.source))
      fun (test : TestPlan) cloud => { test with cloud }).Keeps CloudCanonical :=
    Field.keeps_of fun _ _ _ reads _ cloud isCloud =>
      yields_optional Cloud.yields_read reads cloud isCloud
  simp [shape, untouched, cloudField]

/-- The clouds of answers that are read are canonical. -/
theorem Answers.cloudsCanonical_of_read {json : Json} {answers : Answers}
    (reads : ofJson? json = .ok answers) : answers.CloudsCanonical := by
  refine yields_record (fun test member => absurd member List.not_mem_nil) ?_ reads
  have untouched {α : Type} {key : String} {readPart : Json → Except Misfit α}
      {set : Answers → α → Answers}
      (sameTests : ∀ answers part, (set answers part).tests = answers.tests) :
      (Field.of .defaulted key readPart set).Keeps CloudsCanonical := by
    refine Field.keeps_of fun _ part answers _ canonical test member => ?_
    exact canonical test (sameTests answers part ▸ member)
  have testsField : (Field.of .defaulted "tests"
      (Json.source.list (TestPlan.read Json.source))
      fun (answers : Answers) tests => { answers with tests }).Keeps CloudsCanonical :=
    Field.keeps_of fun _ _ _ reads _ => yields_list TestPlan.yields_read reads
  simp [shape, untouched, testsField]

/-! ## The order of members -/

/-- A choice is read from a name, or from an object with one member, so that there is no
order to ignore. -/
@[simp] theorem ReleaseStream.ignoresOrder_read : IgnoresOrder (read Json.source) :=
  ignoresOrder_choice _

@[simp] theorem UpgradeStrategy.ignoresOrder_read : IgnoresOrder (read Json.source) :=
  ignoresOrder_choice _

@[simp] theorem TestKind.ignoresOrder_read : IgnoresOrder (read Json.source) :=
  ignoresOrder_choice _

@[simp] theorem Cloud.ignoresOrder_read : IgnoresOrder (read Json.source) :=
  ignoresOrder_mapped ignoresOrder_text ofName

/-- An image is read in any order of its members. -/
@[simp] theorem ImageTag.ignoresOrder_read : IgnoresOrder (read Json.source) :=
  ignoresOrder_record (lawful_shape _) (by simp [shape])

/-- A substitution is read in any order of its members, whatever its title. -/
@[simp] theorem Substitution.ignoresOrder_shape (title : String) :
    IgnoresOrder (Json.source.record (shape Json.source title)) :=
  ignoresOrder_record (lawful_shape _ title) (by simp [shape])

@[simp] theorem Substitution.ignoresOrder_read : IgnoresOrder (read Json.source) :=
  ignoresOrder_shape _

/-- A release is read in any order of its members. -/
@[simp] theorem ReleaseChoice.ignoresOrder_read : IgnoresOrder (read Json.source) :=
  ignoresOrder_record (lawful_shape _) (by simp [shape])

/-- A bundle is read in any order, the flag that it is built among its members. -/
@[simp] theorem BundlePlan.ignoresOrder_read? : IgnoresOrder (read? Json.source) :=
  ignoresOrder_mapped (ignoresOrder_optional <|
    ignoresOrder_record (FlaggedBundlePlan.lawful_shape _) (by simp [FlaggedBundlePlan.shape])) _

/-- The parameters of a build are read in any order, down to the images and the bundle. -/
@[simp] theorem BuildPlan.ignoresOrder_read : IgnoresOrder (read Json.source) :=
  ignoresOrder_record (lawful_shape _) (by simp [shape])

/-- The parameters of an operator are read in any order. -/
@[simp] theorem OperatorParameters.ignoresOrder_read : IgnoresOrder (read Json.source) :=
  ignoresOrder_record (lawful_shape _) (by simp [shape])

/-- A test is read in any order, the members of its maps too. -/
@[simp] theorem TestPlan.ignoresOrder_read : IgnoresOrder (read Json.source) :=
  ignoresOrder_record (lawful_shape _) (by simp [shape])

/-- Answers are read in any order, of the members of every record and map in them. -/
theorem Answers.ignoresOrder_read : IgnoresOrder (read Json.source) :=
  ignoresOrder_record (lawful_shape _) (by simp [shape])

/-! ## Reading, writing and reading again -/

/-- Answers that were read are read back from what is written of them, whatever the order of the
members, and are written in the same way again. So it is with all answers in which no test runs on
another cloud under the name of a known one, and with no others. -/
theorem answers_read_stably :
    (∀ json answers, Answers.ofJson? json = .ok answers →
      ∀ written, answers.toJson.Rearranged written →
        ∃ again, Answers.ofJson? written = .ok again ∧ again = answers ∧
          again.toJson = answers.toJson) ∧
    ∀ answers : Answers,
      (Answers.ofJson? answers.toJson = .ok answers ↔
        ∀ test ∈ answers.tests, ∀ name, test.cloud = some (.other name) →
          name ∉ ["Aws", "Azure", "Gcp"]) ∧
      (Answers.ofJson? answers.toJson = .ok answers ↔
        ∃ json, Answers.ofJson? json = .ok answers) := by
  refine ⟨fun json answers reads written rearranged => ?_, fun answers => ⟨?_, ?_⟩⟩
  · have readBack := Answers.ofJson?_toJson (Answers.cloudsCanonical_of_read reads)
    exact ⟨answers, Answers.ignoresOrder_read rearranged readBack, rfl, rfl⟩
  · refine ⟨fun readBack test member name isOther => ?_, fun unknown => ?_⟩
    · have canonical := Answers.cloudsCanonical_of_read readBack test member _ isOther
      exact Cloud.isCanonical_iff.mp canonical name rfl
    · refine Answers.ofJson?_toJson fun test member cloud isCloud => ?_
      refine Cloud.isCanonical_iff.mpr fun name isOther => ?_
      exact unknown test member name (isOther ▸ isCloud)
  · refine ⟨fun readBack => ⟨_, readBack⟩, ?_⟩
    rintro ⟨json, reads⟩
    exact Answers.ofJson?_toJson (Answers.cloudsCanonical_of_read reads)

/-- Answers in the form of an array, with a bundle plan that does not count and a test on Azure,
are read back from what is written of them, also from behind. -/
theorem answers_read_stably_sample :
    let json : Json := .array [.string "acme", .string "widgets", .string "main",
      .object [("release", .array [.object [("Nightly", .null)]]),
        ("operatorConfig", .object [("name", .string "kept")])],
      .array [.object [("cloudProvider", .string "Azure"), ("testCommands", .null)]]]
    let answers : Answers :=
      ⟨"acme", "widgets", "main", { BuildPlan.blank with release := ⟨.nightly, none⟩ },
        [{ TestPlan.blank with cloud := some .azure }]⟩
    let written : Json := .object answers.toJson.members.reverse
    Answers.ofJson? json = .ok answers ∧ answers.toJson.Rearranged written ∧
      Answers.ofJson? written = .ok answers := by
  intro json answers written
  have reads : Answers.ofJson? json = .ok answers := rfl
  have rearranged : answers.toJson.Rearranged written :=
    rearranged_of_perm (by simp [answers]) (List.reverse_perm _).symm
  obtain ⟨again, isRead, rfl, _⟩ := answers_read_stably.1 json answers reads written rearranged
  exact ⟨reads, rearranged, isRead⟩

end Onboarding
