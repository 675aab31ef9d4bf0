import Onboarding.Document.Wire
import Onboarding.Proofs.Answers.Stability

/-! # Documents are read back from their wire form

Every document is read back from what is written of it, whatever the order of the members: also a
job whose environment is there but empty, and a document without a bundle section, which is
written as null and not left out (`Onboarding.Document.read_rearranged`).
-/

namespace Onboarding

open Json

section Shapes

variable {ν ε : Type} (source : Source ν ε)

/-- The fields of a unit job can be entered in any order. -/
theorem UnitJob.lawful_shape : (shape source).Lawful := by
  constructor <;> simp [shape]

/-- The fields of a job of its own can be entered in any order. -/
theorem CustomJob.lawful_shape : (shape source).Lawful := by
  constructor <;> simp [shape]

/-- The fields of the section of a bundle can be entered in any order. -/
theorem BundleSection.lawful_shape : (shape source).Lawful := by
  constructor <;> simp [shape]

/-- The fields of a document can be entered in any order. -/
theorem Document.lawful_shape : (shape source).Lawful := by
  constructor <;> simp [shape]

end Shapes

/-! ## What is written holds the document -/

namespace UnitJob

/-- What is written of a unit job holds it, with a command or without. -/
theorem holds_toJson (job : UnitJob) : job.toJson.Holds (shape Json.source) job where
  distinct := by
    have inOrder : (job.toJson.members.map Prod.fst).Sublist ["as", "command"] :=
      keys_optionalMember.cons_cons "as"
    exact inOrder.nodup (by simp)
  present := by simp [shape, toJson, member?, List.lookup_cons]
  fills := by
    refine
      .cons (takes_written job.name (.string job.name) ?_ rfl) <|
      .cons (takes_optional job.command .string ?_ (fun _ _ => rfl) rfl) .nil
    all_goals simp [toJson, member?, lookup_optionalMember, List.lookup_cons]

/-- A unit job is read back. -/
theorem read_toJson (job : UnitJob) : read Json.source job.toJson = .ok job :=
  job.holds_toJson.read_object (lawful_shape Json.source)

end UnitJob

namespace CustomJob

/-- What is written of a job of its own holds it, whichever maps it has. -/
theorem holds_toJson (job : CustomJob) : job.toJson.Holds (shape Json.source) job where
  distinct := by
    have inOrder : (job.toJson.members.map Prod.fst).Sublist
        (["as", "command", "profile"] ++ ["workflow"] ++ ["cli"] ++ ["environment"] ++
          ["dependencies"]) :=
      keys_append_optionalMember <| keys_append_optionalMember <| keys_append <|
        keys_append_optionalMember <| List.Sublist.refl _
    exact inOrder.nodup (by simp)
  present := by
    simp [shape, toJson, member?, lookup_optionalMember, List.lookup_append, List.lookup_cons]
  fills := by
    have texts (map : Option (KeyMap String)) (content : KeyMap String) (_ : map = some content) :
        Json.source.optional (Json.source.map Json.source.text) (ofMap content .string) =
          .ok (some content) :=
      congrArg (Except.map some) (readMap_ofMap fun _ _ => rfl)
    refine
      .cons (takes_written job.name (.string job.name) ?_ rfl) <|
      .cons (takes_written job.command (.string job.command) ?_ rfl) <|
      .cons (takes_written job.profile (.string job.profile) ?_ rfl) <|
      .cons (takes_optional job.workflow .string ?_ (fun _ _ => rfl) rfl) <|
      .cons (takes_written job.client (.bool job.client) ?_ rfl) <|
      .cons (takes_optional job.environment (ofMap · .string) ?_ (texts job.environment) rfl) <|
      .cons (takes_optional job.dependencies (ofMap · .string) ?_ (texts job.dependencies) rfl)
        .nil
    all_goals
      simp [toJson, member?, lookup_optionalMember, List.lookup_append, List.lookup_cons]

/-- A job of its own is read back. -/
theorem read_toJson (job : CustomJob) : read Json.source job.toJson = .ok job :=
  job.holds_toJson.read_object (lawful_shape Json.source)

end CustomJob

namespace BundleSection

/-- What is written of a section holds it. -/
theorem holds_toJson (bundle : BundleSection) :
    bundle.toJson.Holds (shape Json.source) bundle where
  distinct := by simp [toJson, members]
  present := by simp [shape, toJson, member?, List.lookup_cons]
  fills := by
    have substitutions : Json.source.list
        (Json.source.record (Substitution.shape Json.source "Substitution"))
        (Json.ofList bundle.substitutions Substitution.toJson) = .ok bundle.substitutions :=
      readList_ofList fun substitution _ =>
        (substitution.holds_toJson _).read_object (Substitution.lawful_shape Json.source _)
    refine
      .cons (takes_written bundle.name (.string bundle.name) ?_ rfl) <|
      .cons (takes_written bundle.dockerfilePath (.string bundle.dockerfilePath) ?_ rfl) <|
      .cons (takes_written bundle.contextDir (.string bundle.contextDir) ?_ rfl) <|
      .cons (takes_written bundle.baseIndex (.string bundle.baseIndex) ?_ rfl) <|
      .cons (takes_written bundle.upgrade (.string bundle.upgrade) ?_ rfl) <|
      .cons (takes_written bundle.substitutions _ ?_ substitutions) .nil
    all_goals simp [toJson, member?, List.lookup_cons]

/-- A section is read back. -/
theorem read_toJson (bundle : BundleSection) : read Json.source bundle.toJson = .ok bundle :=
  bundle.holds_toJson.read_object (lawful_shape Json.source)

end BundleSection

namespace Document

/-- The bundle section is written in any case. -/
theorem exists_bundle_written (document : Document) :
    ∃ written, document.toJson.member? "operator_bundle" = some written ∧
      Json.source.optional (BundleSection.read Json.source) written = .ok document.bundle := by
  cases isBundle : document.bundle with
  | none =>
      refine ⟨null, ?_, rfl⟩
      simp [toJson, member?, lookup_optionalMember, List.lookup_append, List.lookup_cons, isBundle]
  | some bundle =>
      refine ⟨bundle.toJson, ?_, congrArg (Except.map some) bundle.read_toJson⟩
      simp [toJson, member?, lookup_optionalMember, List.lookup_append, List.lookup_cons, isBundle]

/-- What is written of a document holds it: a section that is not there is written as null. -/
theorem holds_toJson (document : Document) :
    document.toJson.Holds (shape Json.source) document where
  distinct := by
    have inOrder : (document.toJson.members.map Prod.fst).Sublist
        (["org", "repo", "branch"] ++ ["canonical_go_repository"] ++
          ["promotes", "promotes_with_openshift", "needs_base", "needs_os"] ++ ["go_version"] ++
          ["base_images"] ++ ["build_commands"] ++ ["test_build_commands"] ++
          ["tests", "custom_e2e", "operator_bundle", "release_type"] ++ ["release_version"]) :=
      keys_append_optionalMember <| keys_append <| keys_append_optionalMember <|
        keys_append_optionalMember <| keys_append <| keys_append_optionalMember <|
        keys_append <| keys_append_optionalMember <| List.Sublist.refl _
    exact inOrder.nodup (by simp)
  present := by
    simp [shape, toJson, member?, lookup_optionalMember, List.lookup_append, List.lookup_cons]
  fills := by
    have baseImages : Json.source.map (ImageTag.read Json.source)
        (ofMap document.baseImages ImageTag.toJson) = .ok document.baseImages :=
      readMap_ofMap fun entry _ => entry.2.read_toJson
    have unitJobs : Json.source.list (UnitJob.read Json.source)
        (Json.ofList document.unitJobs UnitJob.toJson) = .ok document.unitJobs :=
      readList_ofList fun job _ => job.read_toJson
    have customJobs : Json.source.list (CustomJob.read Json.source)
        (Json.ofList document.customJobs CustomJob.toJson) = .ok document.customJobs :=
      readList_ofList fun job _ => job.read_toJson
    obtain ⟨_, bundleFound, bundle⟩ := document.exists_bundle_written
    refine
      .cons (takes_written document.org (.string document.org) ?_ rfl) <|
      .cons (takes_written document.repo (.string document.repo) ?_ rfl) <|
      .cons (takes_written document.branch (.string document.branch) ?_ rfl) <|
      .cons (takes_optional document.importPath .string ?_ (fun _ _ => rfl) rfl) <|
      .cons (takes_written document.promotes (.bool document.promotes) ?_ rfl) <|
      .cons (takes_written document.inRelease (.bool document.inRelease) ?_ rfl) <|
      .cons (takes_written document.needsBase (.bool document.needsBase) ?_ rfl) <|
      .cons (takes_written document.needsOs (.bool document.needsOs) ?_ rfl) <|
      .cons (takes_optional document.goVersion .string ?_ (fun _ _ => rfl) rfl) <|
      .cons (takes_written document.baseImages _ ?_ baseImages) <|
      .cons (takes_optional document.buildCommands .string ?_ (fun _ _ => rfl) rfl) <|
      .cons (takes_optional document.testBuildCommands .string ?_ (fun _ _ => rfl) rfl) <|
      .cons (takes_written document.unitJobs _ ?_ unitJobs) <|
      .cons (takes_written document.customJobs _ ?_ customJobs) <|
      .cons (takes_written document.bundle _ bundleFound bundle) <|
      .cons (takes_written document.release (.string document.release) ?_ rfl) <|
      .cons (takes_optional document.releaseVersion .string ?_ (fun _ _ => rfl) rfl) .nil
    all_goals
      simp [toJson, member?, lookup_optionalMember, List.lookup_append, List.lookup_cons]

end Document

/-! ## The order of members -/

/-- A unit job is read in any order of its members. -/
@[simp] theorem UnitJob.ignoresOrder_read : IgnoresOrder (read Json.source) :=
  ignoresOrder_record (lawful_shape _) (by simp [shape])

/-- A job of its own is read in any order, also of its two maps. -/
@[simp] theorem CustomJob.ignoresOrder_read : IgnoresOrder (read Json.source) := by
  have texts : IgnoresOrder (Json.source.optional (Json.source.map Json.source.text)) :=
    ignoresOrder_optional (ignoresOrder_map ignoresOrder_text)
  exact ignoresOrder_record (lawful_shape _) (by simp [shape, texts])

/-- A section is read in any order, also of the members of its substitutions. -/
@[simp] theorem BundleSection.ignoresOrder_read : IgnoresOrder (read Json.source) :=
  ignoresOrder_record (lawful_shape _) (by simp [shape])

/-- A document is read in any order, of the members of every record and map in it. -/
theorem Document.ignoresOrder_read : IgnoresOrder (read Json.source) :=
  ignoresOrder_record (lawful_shape _) (by simp [shape])

/-- A document is read back from what is written of it, whatever the order of the members. -/
theorem Document.read_rearranged {document : Document} {written : Json}
    (rearranged : document.toJson.Rearranged written) : ofJson? written = .ok document :=
  ignoresOrder_read rearranged (document.holds_toJson.read_object (lawful_shape Json.source))

end Onboarding
