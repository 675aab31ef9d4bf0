import Onboarding.Answers.Wire
import Onboarding.Document.Basic

/-! # The wire form of documents

Documents are exchanged under snake-case keys. Most parts are mandatory; absent
texts are not written, while the bundle section is always written, as null when
there is none.
-/

namespace Onboarding

variable {ν ε : Type} (source : Source ν ε)

namespace UnitJob

/-- A unit job is a record of a name and perhaps a command. -/
def shape : Record ν ε UnitJob where
  title := "UnitTest"
  blank := ⟨"", none⟩
  fields :=
    [.mandatory "as" source.text fun job name => { job with name },
      .defaulted "command" (source.optional source.text) fun job command => { job with command }]

/-- Unit jobs are read from records of their shape. -/
def read : ν → Except ε UnitJob := source.record (shape source)

/-- Unit jobs are written with their name, and with a command if there is one. -/
def toJson (job : UnitJob) : Json :=
  .object (("as", .string job.name) :: Json.optionalMember "command" job.command .string)

end UnitJob

namespace CustomJob

/-- A job of its own is a record of which the workflow and the two maps may be left out. -/
def shape : Record ν ε CustomJob where
  title := "CustomTest"
  blank := ⟨"", "", "", none, false, none, none⟩
  fields :=
    [.mandatory "as" source.text fun job name => { job with name },
      .mandatory "command" source.text fun job command => { job with command },
      .mandatory "profile" source.text fun job profile => { job with profile },
      .defaulted "workflow" (source.optional source.text) fun job workflow =>
        { job with workflow },
      .mandatory "cli" source.flag fun job client => { job with client },
      .defaulted "environment" (source.optional (source.map source.text))
        fun job environment => { job with environment },
      .defaulted "dependencies" (source.optional (source.map source.text))
        fun job dependencies => { job with dependencies }]

/-- Jobs are read from records of their shape. -/
def read : ν → Except ε CustomJob := source.record (shape source)

/-- Jobs are written without the parts that are not there. -/
def toJson (job : CustomJob) : Json :=
  .object ([("as", .string job.name), ("command", .string job.command),
      ("profile", .string job.profile)] ++
    Json.optionalMember "workflow" job.workflow .string ++
    [("cli", .bool job.client)] ++
    Json.optionalMember "environment" job.environment (Json.ofMap · .string) ++
    Json.optionalMember "dependencies" job.dependencies (Json.ofMap · .string))

end CustomJob

namespace BundleSection

/-- The section of a bundle is a record all of whose fields must be there. -/
def shape : Record ν ε BundleSection where
  title := "OperatorBundle"
  blank := ⟨"", "", "", "", "", []⟩
  fields :=
    [.mandatory "name" source.text fun bundle name => { bundle with name },
      .mandatory "dockerfile_path" source.text fun bundle dockerfilePath =>
        { bundle with dockerfilePath },
      .mandatory "context_dir" source.text fun bundle contextDir => { bundle with contextDir },
      .mandatory "base_index" source.text fun bundle baseIndex => { bundle with baseIndex },
      .mandatory "update_graph" source.text fun bundle upgrade => { bundle with upgrade },
      .mandatory "substitutions"
        (source.list (source.record (Substitution.shape source "Substitution")))
        fun bundle substitutions => { bundle with substitutions }]

/-- Sections are read from records of their shape. -/
def read : ν → Except ε BundleSection := source.record (shape source)

/-- Sections are written with all their fields. -/
def toJson (bundle : BundleSection) : Json :=
  .object [("name", .string bundle.name), ("dockerfile_path", .string bundle.dockerfilePath),
    ("context_dir", .string bundle.contextDir), ("base_index", .string bundle.baseIndex),
    ("update_graph", .string bundle.upgrade),
    ("substitutions", Json.ofList bundle.substitutions Substitution.toJson)]

end BundleSection

namespace Document

/-- A document is a record of which the identifying texts, the flags and the type of the
release must be there. -/
def shape : Record ν ε Document where
  title := "Document"
  blank := blank
  fields :=
    [.mandatory "org" source.text fun document org => { document with org },
      .mandatory "repo" source.text fun document repo => { document with repo },
      .mandatory "branch" source.text fun document branch => { document with branch },
      .defaulted "canonical_go_repository" (source.optional source.text)
        fun document importPath => { document with importPath },
      .mandatory "promotes" source.flag fun document promotes => { document with promotes },
      .mandatory "promotes_with_openshift" source.flag fun document inRelease =>
        { document with inRelease },
      .mandatory "needs_base" source.flag fun document needsBase => { document with needsBase },
      .mandatory "needs_os" source.flag fun document needsOs => { document with needsOs },
      .defaulted "go_version" (source.optional source.text) fun document goVersion =>
        { document with goVersion },
      .defaulted "base_images" (source.map (ImageTag.read source)) fun document baseImages =>
        { document with baseImages },
      .defaulted "build_commands" (source.optional source.text) fun document buildCommands =>
        { document with buildCommands },
      .defaulted "test_build_commands" (source.optional source.text)
        fun document testBuildCommands => { document with testBuildCommands },
      .defaulted "tests" (source.list (UnitJob.read source)) fun document unitJobs =>
        { document with unitJobs },
      .defaulted "custom_e2e" (source.list (CustomJob.read source)) fun document customJobs =>
        { document with customJobs },
      .placed "operator_bundle" (source.optional (BundleSection.read source))
        fun document bundle => { document with bundle },
      .mandatory "release_type" source.text fun document release => { document with release },
      .defaulted "release_version" (source.optional source.text) fun document releaseVersion =>
        { document with releaseVersion }]

/-- Documents are read from records of their shape. -/
def read : ν → Except ε Document := source.record (shape source)

/-- A document that is read from a value of JSON. -/
def ofJson? : Json → Except Json.Misfit Document := read Json.source

/-- Documents are written without the texts that are not there. -/
def toJson (document : Document) : Json :=
  .object ([("org", .string document.org), ("repo", .string document.repo),
      ("branch", .string document.branch)] ++
    Json.optionalMember "canonical_go_repository" document.importPath .string ++
    [("promotes", .bool document.promotes), ("promotes_with_openshift", .bool document.inRelease),
      ("needs_base", .bool document.needsBase), ("needs_os", .bool document.needsOs)] ++
    Json.optionalMember "go_version" document.goVersion .string ++
    [("base_images", Json.ofMap document.baseImages ImageTag.toJson)] ++
    Json.optionalMember "build_commands" document.buildCommands .string ++
    Json.optionalMember "test_build_commands" document.testBuildCommands .string ++
    [("tests", Json.ofList document.unitJobs UnitJob.toJson),
      ("custom_e2e", Json.ofList document.customJobs CustomJob.toJson),
      ("operator_bundle",
        match document.bundle with
        | some bundle => bundle.toJson
        | none => .null),
      ("release_type", .string document.release)] ++
    Json.optionalMember "release_version" document.releaseVersion .string)

end Document

end Onboarding
