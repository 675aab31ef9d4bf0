import Onboarding.Answers.Basic

/-! # The document of a pipeline

What the configuration service validates and generates a pipeline from. Base
images are kept under their names, tests are split into unit jobs and custom jobs,
and a document has a bundle section only when an operator bundle is built.
-/

namespace Onboarding

/-- A job that runs a test inside the repository. -/
structure UnitJob where
  name : String
  command : Option String
  deriving DecidableEq, Repr, Inhabited

/-- A job that runs a test against a cluster. The workflow and its parameters are
there for operator tests only. -/
structure CustomJob where
  name : String
  command : String
  profile : String
  workflow : Option String
  client : Bool
  environment : Option (KeyMap String)
  dependencies : Option (KeyMap String)
  deriving DecidableEq, Repr, Inhabited

/-- The section of a document that describes the operator bundle. -/
structure BundleSection where
  name : String
  dockerfilePath : String
  contextDir : String
  baseIndex : String
  upgrade : String
  substitutions : List Substitution
  deriving DecidableEq, Repr, Inhabited

/-- A document of the configuration service. -/
structure Document where
  org : String
  repo : String
  branch : String
  importPath : Option String
  promotes : Bool
  inRelease : Bool
  needsBase : Bool
  needsOs : Bool
  goVersion : Option String
  baseImages : KeyMap ImageTag
  buildCommands : Option String
  testBuildCommands : Option String
  unitJobs : List UnitJob
  customJobs : List CustomJob
  bundle : Option BundleSection
  release : String
  releaseVersion : Option String
  deriving DecidableEq, Repr, Inhabited

namespace Document

/-- The document that a reading starts from. -/
def blank : Document :=
  ⟨"", "", "", none, false, false, false, false, none, KeyMap.empty, none, none, [], [], none, "",
    none⟩

end Document

end Onboarding
