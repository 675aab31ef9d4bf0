import Onboarding.Text.LetterCase

/-! # Named values

The closed sets of values that answers and requests name: each with its names and
the way a name is recognised in running text. A name that is not recognised is
reported with the set in which it was looked up.
-/

namespace Onboarding

/-- A text that names no value of a set. -/
structure UnknownName where
  kind : String
  text : String
  deriving DecidableEq, Repr

/-- What is told of a name that stands for nothing. -/
def UnknownName.message (unknown : UnknownName) : String :=
  "unknown " ++ unknown.kind ++ ": " ++ unknown.text

/-- The value that a name stands for in a list of names. -/
def recognise {α : Type} (kind : String) (names : List (String × α)) (key text : String) :
    Except UnknownName α :=
  match names.lookup key with
  | some value => .ok value
  | none => .error ⟨kind, text⟩

/-- The release that tests run on top of. -/
inductive ReleaseStream where
  | none
  | published
  | nightly
  deriving DecidableEq, Repr, Inhabited

namespace ReleaseStream

/-- The name in answers. -/
def wireName : ReleaseStream → String
  | none => "No"
  | published => "Published"
  | nightly => "Nightly"

/-- The name in documents and in running text. -/
def name : ReleaseStream → String
  | none => "no"
  | published => "published"
  | nightly => "nightly"

/-- Different streams have different names. -/
theorem name_inj {left right : ReleaseStream} : left.name = right.name ↔ left = right := by
  cases left <;> cases right <;> simp [name]

/-- The streams, in the order in which they are declared. -/
def all : List ReleaseStream := [none, published, nightly]

/-- The stream that a text names, in whatever case. -/
def ofText? (text : String) : Except UnknownName ReleaseStream :=
  recognise "release type" (all.map fun stream => (stream.name, stream)) (Text.lower text) text

end ReleaseStream

/-- How a new bundle version is linked into the graph of upgrades. -/
inductive UpgradeStrategy where
  | semver
  | skipPatch
  | replaces
  deriving DecidableEq, Repr, Inhabited

namespace UpgradeStrategy

/-- The name of a strategy in documents. -/
def name : UpgradeStrategy → String
  | semver => "semver"
  | skipPatch => "semver-skippatch"
  | replaces => "replaces"

/-- Different strategies have different names. -/
theorem name_inj {left right : UpgradeStrategy} : left.name = right.name ↔ left = right := by
  cases left <;> cases right <;> simp [name]

/-- The names under which a strategy is read, of which it may have several. -/
def names : List (String × UpgradeStrategy) :=
  [("semver", semver), ("semver-skippatch", skipPatch), ("semverSkippatch", skipPatch),
    ("semver_skippatch", skipPatch), ("replaces", replaces)]

/-- The strategy that a text names exactly. -/
def ofText? (text : String) : Except UnknownName UpgradeStrategy :=
  recognise "update graph" names text text

end UpgradeStrategy

/-- What a test needs around it. -/
inductive TestKind where
  | unit
  | endToEnd
  | operator
  deriving DecidableEq, Repr, Inhabited

namespace TestKind

/-- The name of a kind of test. -/
def name : TestKind → String
  | unit => "Unit"
  | endToEnd => "E2e"
  | operator => "Operator"

/-- The names under which a kind of test is read. -/
def names : List (String × TestKind) :=
  [("Unit", unit), ("E2e", endToEnd), ("Operator", operator)]

/-- The kind that a text names exactly. -/
def ofText? (text : String) : Except UnknownName TestKind :=
  recognise "test type" names text text

end TestKind

/-- The cloud that the cluster of a test runs on. A name that is not one of the
known clouds is kept as it is. -/
inductive Cloud where
  | aws
  | azure
  | gcp
  | other (name : String)
  deriving DecidableEq, Repr, Inhabited

namespace Cloud

/-- The name of a cloud. Clouds that are not known by name are their own name. -/
def name : Cloud → String
  | aws => "Aws"
  | azure => "Azure"
  | gcp => "Gcp"
  | other name => name

/-- The cloud of a name. Every name is the name of a cloud. -/
def ofName (name : String) : Cloud :=
  if name = "Aws" then aws
  else if name = "Azure" then azure
  else if name = "Gcp" then gcp
  else other name

/-- A cloud that is named as it would be read. -/
def IsCanonical (cloud : Cloud) : Prop := ofName cloud.name = cloud

end Cloud

/-- The part of a document that the service is asked to validate. -/
inductive Scope where
  | all
  | baseImages
  | tests
  | operatorBundle
  | operatorSubstitution
  deriving DecidableEq, Repr, Inhabited

namespace Scope

/-- The name of a part of the document, as the service is asked to check it. -/
def name : Scope → String
  | all => "ALL"
  | baseImages => "BASE_IMAGES"
  | tests => "TESTS"
  | operatorBundle => "OPERATOR_BUNDLE"
  | operatorSubstitution => "OPERATOR_SUBSTITUTION"

/-- The names under which a part of the document is read. -/
def names : List (String × Scope) :=
  [all, baseImages, tests, operatorBundle, operatorSubstitution].map fun scope =>
    (scope.name, scope)

/-- The scope that a text names, in whatever case and with dashes for underscores. -/
def ofText? (text : String) : Except UnknownName Scope :=
  let key := String.ofList ((Text.upper text).toList.map fun c => if c = '-' then '_' else c)
  recognise "validation type" names key text

end Scope

end Onboarding
