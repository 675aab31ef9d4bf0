import Onboarding.Proofs.Document.Completeness
import Onboarding.Proofs.Document.Jobs

/-! # The shape of documents

Whatever the answers are, their document has a certain shape
(`Onboarding.Document.isShaped_ofAnswers`). Promotion comes before the flags that build on it,
base images stand under their own names, and what documents trim has no white space around it.
Texts that are chosen by the document and not by the user come from short lists. A custom job has
either all of a workflow or nothing of it, and its workflow goes with its profile.
-/

namespace Onboarding

namespace Cloud

/-- The profiles that jobs may have, each with the workflow that goes with it. Without a profile
that is the one for AWS. -/
def workflows : List (String × String) :=
  [("", "optional-operators-ci-aws"), ("aws", "optional-operators-ci-aws"),
    ("azure", "optional-operators-ci-azure"), ("gcp", "optional-operators-ci-gcp")]

/-- A profile and its workflow are a pair of the table. -/
theorem mem_workflows (cloud : Option Cloud) :
    (profile cloud, operatorWorkflow cloud) ∈ workflows := by
  rcases cloud with _ | cloud
  · simp [profile, operatorWorkflow, workflows]
  · cases cloud <;> simp [profile, operatorWorkflow, workflows]

theorem profile_mem (cloud : Option Cloud) : profile cloud ∈ ["", "aws", "azure", "gcp"] :=
  List.mem_map_of_mem (f := Prod.fst) (mem_workflows cloud)

end Cloud

namespace CustomJob

/-- Nothing is said of a workflow, or it is the one for a profile and has an environment and
dependencies with known keys and trimmed values. -/
inductive HasWorkflow (profile : String) :
    Option String → Option (KeyMap String) → Option (KeyMap String) → Prop
  | nothing : HasWorkflow profile none none none
  | installing {workflow : String} {environment dependencies : KeyMap String}
      (goesWith : (profile, workflow) ∈ Cloud.workflows)
      (settings : ∀ entry ∈ environment.entries, Text.IsBare entry.2 ∧
        entry.1 ∈ ["OO_CHANNEL", "OO_PACKAGE", "OO_INSTALL_NAMESPACE", "OO_TARGET_NAMESPACES"])
      (images : ∀ entry ∈ dependencies.entries, Text.IsBare entry.2 ∧ entry.1 ∈ ["OO_INDEX"]) :
      HasWorkflow profile (some workflow) (some environment) (some dependencies)

/-- The shape of a job of its own. -/
structure IsShaped (job : CustomJob) : Prop where
  name : Text.IsBare job.name
  command : Text.IsBare job.command
  profile : job.profile ∈ ["", "aws", "azure", "gcp"]
  workflow : HasWorkflow job.profile job.workflow job.environment job.dependencies

end CustomJob

/-- The shape of the section of a bundle. -/
structure BundleSection.IsShaped (bundle : BundleSection) : Prop where
  isNamed : bundle.name ≠ ""
  name : Text.IsBare bundle.name
  dockerfilePath : Text.IsBare bundle.dockerfilePath
  contextDir : Text.IsBare bundle.contextDir
  baseIndex : Text.IsBare bundle.baseIndex
  upgrade : bundle.upgrade ∈ ["", "semver", "semver-skippatch", "replaces"]
  substitutions : ∀ substitution ∈ bundle.substitutions,
    Text.IsBare substitution.pullspec ∧ Text.IsBare substitution.replacement

/-- The shape of a document. -/
structure Document.IsShaped (document : Document) : Prop where
  inRelease : document.inRelease = true → document.promotes = true
  needsBase : document.needsBase = true → document.promotes = true
  needsOs : document.needsOs = true → document.promotes = true
  baseImages : ∀ entry ∈ document.baseImages.entries, entry.1 = entry.2.name
  customJobs : ∀ job ∈ document.customJobs, job.IsShaped
  bundle : ∀ bundle, document.bundle = some bundle → bundle.IsShaped
  release : document.release ∈ ["no", "published", "nightly"]

/-! ## The parts of a document -/

namespace TestPlan

variable {test : TestPlan}

/-- What a test supplies stands under the keys of the table and is trimmed. -/
theorem Supplies.entries {table : OperatorParameters.Table} {map : KeyMap String}
    (supplies : test.Supplies table (some map)) :
    ∀ entry ∈ map.entries, Text.IsBare entry.2 ∧ entry.1 ∈ table.map Prod.fst := by
  intro entry member
  cases supplies with
  | parameters _ values =>
      have found := (values entry.1).symm.trans (KeyMap.find?_of_mem member)
      obtain ⟨text, isGiven, isQuoted⟩ := Option.map_eq_some_iff.mp found
      obtain ⟨parameter, listed, _⟩ := Option.bind_eq_some_iff.mp isGiven
      obtain ⟨before, rest, isSplit, _⟩ := List.lookup_eq_some_iff.mp listed
      have inTable : (entry.1, parameter) ∈ table := isSplit ▸ List.mem_append_cons_self
      exact ⟨isQuoted ▸ Text.isBare_quoted text, List.mem_map_of_mem inTable⟩

/-- The three parts of a workflow come from operator tests, and then all of them do. -/
theorem IsRunBy.hasWorkflow {job : CustomJob} (isRun : test.IsRunBy job) :
    CustomJob.HasWorkflow job.profile job.workflow job.environment job.dependencies := by
  have goesWith : (job.profile, Cloud.operatorWorkflow test.cloud) ∈ Cloud.workflows :=
    isRun.profile ▸ Cloud.mem_workflows test.cloud
  obtain ⟨_, _, _, workflow, _, environment?, dependencies?⟩ := job
  obtain ⟨_, _, _, _, isWorkflow, environment, dependencies⟩ := isRun
  dsimp only at isWorkflow environment dependencies
  cases environment with
  | nothing kind =>
      rw [if_neg kind] at isWorkflow
      cases dependencies with
      | nothing _ => exact isWorkflow ▸ .nothing
      | parameters operator _ => exact absurd operator kind
  | parameters kind settings =>
      rw [if_pos kind] at isWorkflow
      cases dependencies with
      | nothing other => exact absurd kind other
      | parameters _ images =>
          exact isWorkflow ▸ .installing goesWith (Supplies.parameters kind settings).entries
            (Supplies.parameters kind images).entries

/-- A job that runs a test has the shape. -/
theorem IsRunBy.isShaped {job : CustomJob} (isRun : test.IsRunBy job) : job.IsShaped where
  name := isRun.name ▸ Text.isBare_trim _
  command := isRun.command ▸ Text.isBare_trimOption _
  profile := isRun.profile ▸ Cloud.profile_mem test.cloud
  workflow := isRun.hasWorkflow

end TestPlan

/-- A bundle has the default name, or a name of its own that is not blank. -/
theorem BundlePlan.effectiveName_cases (plan : BundlePlan) :
    plan.effectiveName = "ci-index" ∨
      ∃ name, Text.isBlank name = false ∧ plan.effectiveName = Text.trim name := by
  unfold effectiveName
  cases plan.name with
  | none => exact .inl rfl
  | some name =>
      cases blank : Text.isBlank name with
      | true => exact .inl (if_pos blank)
      | false => exact .inr ⟨name, blank, if_neg (Bool.eq_false_iff.mp blank)⟩

/-- The section of every plan has the shape. -/
theorem BundleSection.isShaped_ofPlan (plan : BundlePlan) : (ofPlan plan).IsShaped where
  isNamed := by
    rw [name_ofPlan]
    rcases plan.effectiveName_cases with isDefault | ⟨name, filled, isTrimmed⟩
    · rw [isDefault]
      decide
    · intro isEmpty
      rw [← Text.isEmpty_trim, ← isTrimmed, isEmpty] at filled
      cases filled
  name := by
    rw [name_ofPlan]
    rcases plan.effectiveName_cases with isDefault | ⟨name, _, isTrimmed⟩
    · rw [isDefault]
      decide
    · exact isTrimmed ▸ Text.isBare_trim name
  dockerfilePath := Text.isBare_trimOption plan.dockerfilePath
  contextDir := Text.isBare_trimOption plan.contextDir
  baseIndex := Text.isBare_trimOption plan.baseIndex
  upgrade := by
    rcases upgrade : plan.upgrade with _ | strategy
    · simp [ofPlan, upgrade]
    · cases strategy <;> simp [ofPlan, upgrade, UpgradeStrategy.name]
  substitutions := by
    intro substitution member
    obtain ⟨planned, _, rfl⟩ := List.mem_map.mp member
    exact ⟨Text.isBare_trim planned.pullspec, Text.isBare_trim planned.replacement⟩

namespace Document

/-- Base images stand under their names. -/
theorem key_of_mem_baseImages {answers : Answers} {entry : String × ImageTag}
    (member : entry ∈ (ofAnswers answers).baseImages.entries) : entry.1 = entry.2.name := by
  have isLast : answers.build.baseImages.reverse.find? (·.name = entry.1) = some entry.2 :=
    (find?_baseImages entry.1).symm.trans (KeyMap.find?_of_mem member)
  have isNamed := List.find?_some isLast
  exact (of_decide_eq_true isNamed).symm

/-- Every document has the shape of documents, and it has a bundle section exactly if a bundle is
built. -/
theorem isShaped_ofAnswers (answers : Answers) :
    (ofAnswers answers).IsShaped ∧
      (ofAnswers answers).bundle.isSome = answers.build.bundle.isSome := by
  refine ⟨?_, Option.isSome_map⟩
  exact {
    inRelease := fun holds => (Bool.and_eq_true_iff.mp holds).1
    needsBase := fun holds => (Bool.and_eq_true_iff.mp holds).1
    needsOs := fun holds => (Bool.and_eq_true_iff.mp holds).1
    baseImages := fun entry member => key_of_mem_baseImages member
    customJobs := by
      intro job isJob
      obtain ⟨test, _, _, isOther⟩ := mem_customJobs.mp isJob
      exact (TestPlan.isRunBy_iff.mpr isOther).isShaped
    bundle := by
      intro bundle isBundle
      obtain ⟨plan, _, rfl⟩ := Option.map_eq_some_iff.mp isBundle
      exact BundleSection.isShaped_ofPlan plan
    release := by
      have listed : answers.build.release.stream.name ∈ ["no", "published", "nightly"] := by
        cases answers.build.release.stream <;> simp [ReleaseStream.name]
      exact listed }

end Document

end Onboarding
