import Onboarding.Edit.Basic

/-! # Fields named by their paths

A field that holds a single value and lies outside every list has a path, the keys
of its wire form joined by points. A text assigned to a path is an edit, if the
path is known and the text denotes a value of the field: a flag, a strategy and a
release stream are read from the trimmed text, all other fields take the text as
it is.
-/

namespace Onboarding

/-- The fields that a path names. -/
inductive FieldPath where
  | identity (field : IdentityField)
  | promotion (flag : PromotionFlag)
  | buildText (field : BuildText)
  | bundleBuilt
  | bundleText (field : BundleText)
  | upgrade
  | releaseStream
  | releaseVersion
  deriving DecidableEq, Repr

/-- The key of a flag in a file of answers. -/
def PromotionFlag.key : PromotionFlag → String
  | promotes => "buildPromotes"
  | inRelease => "partOfOSRelease"
  | needsBase => "needsBase"
  | needsOs => "needsOS"

/-- The key of a text of the build plan. -/
def BuildText.key : BuildText → String
  | goVersion => "goVersion"
  | importPath => "canonicalGoRepository"
  | buildCommands => "buildCommands"
  | testBuildCommands => "testBuildCommands"

/-- The key of a text of the bundle plan. -/
def BundleText.key : BundleText → String
  | name => "name"
  | dockerfilePath => "dockerfilePath"
  | contextDir => "contextDir"
  | baseIndex => "baseIndex"

namespace FieldPath

/-- The keys that lead to a field in a file of answers. -/
def keys : FieldPath → List String
  | identity field => [field.name]
  | promotion flag => ["buildSettings", flag.key]
  | buildText field => ["buildSettings", field.key]
  | bundleBuilt => ["buildSettings", "operatorConfig", "isOperator"]
  | bundleText field => ["buildSettings", "operatorConfig", field.key]
  | upgrade => ["buildSettings", "operatorConfig", "updateGraph"]
  | releaseStream => ["buildSettings", "release", "type"]
  | releaseVersion => ["buildSettings", "release", "version"]

/-- The path of a field: its keys, with dots between them. -/
def text (path : FieldPath) : String :=
  ".".intercalate path.keys

/-- The fields that have a path. -/
def all : List FieldPath :=
  [identity .org, identity .repo, identity .branch, promotion .promotes, promotion .inRelease,
    promotion .needsBase, promotion .needsOs, buildText .goVersion, buildText .importPath,
    buildText .buildCommands, buildText .testBuildCommands, bundleBuilt, bundleText .name,
    bundleText .dockerfilePath, bundleText .contextDir, bundleText .baseIndex, upgrade,
    releaseStream, releaseVersion]

/-- The field of a path. -/
def ofText? (text : String) : Option FieldPath :=
  all.find? fun path => path.text == text

end FieldPath

/-- The value of a flag that is spelled out. -/
def flagOfText? (text : String) : Option Bool :=
  if text = "true" then some true
  else if text = "false" then some false
  else none

/-- The edit that sets a field to the value a text denotes, if it denotes one. -/
def FieldPath.edit? (path : FieldPath) (text : String) : Option Edit :=
  match path with
  | identity field => some (.identity field text)
  | promotion flag => (flagOfText? (Text.trim text)).map (.promotion flag)
  | buildText field => some (.buildText field text)
  | bundleBuilt =>
    (flagOfText? (Text.trim text)).map fun built => if built then .enableBundle else .disableBundle
  | bundleText field => some (.bundleText field text)
  | upgrade => (UpgradeStrategy.ofText? (Text.trim text)).toOption.map .upgrade
  | releaseStream => (ReleaseStream.ofText? (Text.trim text)).toOption.map .releaseStream
  | releaseVersion => some (.releaseVersion text)

/-- The edit that assigns a text to a path. -/
def Edit.ofText (path text : String) : Except EditError Edit :=
  match FieldPath.ofText? path with
  | none => .error (.unknownField path)
  | some field =>
    match field.edit? text with
    | some edit => .ok edit
    | none => .error (.invalidValue path text)

/-- The edit that assigns what may be a text to a path. Without a text there is
nothing to do, whatever the path. -/
def Edit.ofAssignment (path : String) : Option String → Except EditError (Option Edit)
  | none => .ok none
  | some text => (Edit.ofText path text).map some

end Onboarding
