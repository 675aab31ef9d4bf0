import Onboarding.Answers.Basic
import Onboarding.Edit.InPlace

/-! # Edits of the answers

An edit changes one thing, in place. Entries of lists are unique ignoring case, with
their own slot left out of the comparison when an entry is replaced, and bundle edits
ask for a bundle that is built. What an edit asks for it asks before it changes
anything.
-/

namespace Onboarding

/-- The flags about promotion and about the images that builds need. -/
inductive PromotionFlag where
  | promotes
  | inRelease
  | needsBase
  | needsOs
  deriving DecidableEq, Repr

/-- The texts of a build plan. -/
inductive BuildText where
  | goVersion
  | importPath
  | buildCommands
  | testBuildCommands
  deriving DecidableEq, Repr

/-- The texts of a bundle plan. -/
inductive BundleText where
  | name
  | dockerfilePath
  | contextDir
  | baseIndex
  deriving DecidableEq, Repr

/-- A single change to the answers. -/
inductive Edit where
  | identity (field : IdentityField) (text : String)
  | promotion (flag : PromotionFlag) (value : Bool)
  | buildText (field : BuildText) (text : String)
  | addImage (image : ImageTag)
  | removeImage (index : Nat)
  | enableBundle
  | disableBundle
  | bundleText (field : BundleText) (text : String)
  | upgrade (strategy : UpgradeStrategy)
  | addSubstitution (substitution : Substitution)
  | removeSubstitution (index : Nat)
  | addTest (test : TestPlan)
  | replaceTest (index : Nat) (test : TestPlan)
  | removeTest (index : Nat)
  | releaseStream (stream : ReleaseStream)
  | releaseVersion (text : String)
  deriving DecidableEq, Repr

/-- Why an edit is refused. -/
inductive EditError where
  | incompleteImage
  | duplicateImage
  | duplicateSubstitution
  | duplicateTest
  | incompleteTest
  | bundleDisabled
  | noSuchEntry (index : Nat)
  | unknownField (path : String)
  | invalidValue (path text : String)
  deriving DecidableEq, Repr

/-- What is told to the user about a refused edit. -/
def EditError.message : EditError → String
  | incompleteImage => "Please provide a name, namespace, and tag for the image."
  | duplicateImage => "That base image already exists"
  | duplicateSubstitution => "A substitution for that pullspec already exists"
  | duplicateTest => "A test with that name already exists."
  | incompleteTest => "You must, at a minimum, provide a name and the commands to run."
  | bundleDisabled => "The operator bundle build is not enabled."
  | noSuchEntry index => "No entry at index " ++ toString index
  | unknownField path => "Unknown field: " ++ path
  | invalidValue path text => "Invalid value for " ++ path ++ ": " ++ text

/-- Take the entry at a position out of a list. -/
def removeEntry {α : Type} (index : Nat) : InPlace EditError (List α) Unit := do
  let entries ← get
  InPlace.require (index < entries.length) (.noSuchEntry index)
  set (entries.eraseIdx index)

/-- The answers with another text in an identifying field. -/
def Answers.withIdentity (answers : Answers) (field : IdentityField) (text : String) : Answers :=
  match field with
  | .org => { answers with org := text }
  | .repo => { answers with repo := text }
  | .branch => { answers with branch := text }

namespace BuildPlan

/-- The plan with a flag set or cleared. -/
def withPromotion (plan : BuildPlan) (flag : PromotionFlag) (value : Bool) : BuildPlan :=
  match flag with
  | .promotes => { plan with promotes := value }
  | .inRelease => { plan with inRelease := value }
  | .needsBase => { plan with needsBase := value }
  | .needsOs => { plan with needsOs := value }

/-- The plan with another text in a field. -/
def withText (plan : BuildPlan) (field : BuildText) (text : String) : BuildPlan :=
  match field with
  | .goVersion => { plan with goVersion := some text }
  | .importPath => { plan with importPath := some text }
  | .buildCommands => { plan with buildCommands := some text }
  | .testBuildCommands => { plan with testBuildCommands := some text }

/-- Add a base image, which is complete and not there yet. -/
def addImage (image : ImageTag) : InPlace EditError BuildPlan Unit := do
  InPlace.require image.isComplete .incompleteImage
  let plan ← get
  InPlace.require (plan.findBaseImage? image).isNone .duplicateImage
  set { plan with baseImages := plan.baseImages ++ [image] }

/-- Take out the base image at a position. -/
def removeImage (index : Nat) : InPlace EditError BuildPlan Unit :=
  InPlace.part (·.baseImages) (fun plan baseImages => { plan with baseImages })
    (removeEntry index)

/-- Change the bundle plan, or the decision whether there is one. -/
def onBundle (change : InPlace EditError (Option BundlePlan) Unit) :
    InPlace EditError BuildPlan Unit :=
  InPlace.part (·.bundle) (fun plan bundle => { plan with bundle }) change

/-- Change the release that tests run on. -/
def onRelease (change : InPlace EditError ReleaseChoice Unit) : InPlace EditError BuildPlan Unit :=
  InPlace.part (·.release) (fun plan release => { plan with release }) change

end BuildPlan

namespace BundlePlan

/-- The plan of a bundle with another text in a field. -/
def withText (plan : BundlePlan) (field : BundleText) (text : String) : BundlePlan :=
  match field with
  | .name => { plan with name := some text }
  | .dockerfilePath => { plan with dockerfilePath := some text }
  | .contextDir => { plan with contextDir := some text }
  | .baseIndex => { plan with baseIndex := some text }

/-- Build a bundle. One that is built already stays as it is. -/
def enable : InPlace EditError (Option BundlePlan) Unit :=
  modify fun bundle => some (bundle.getD blank)

/-- Cease to build a bundle, and discard its plan. -/
def disable : InPlace EditError (Option BundlePlan) Unit :=
  set (none : Option BundlePlan)

/-- Change the plan of a bundle, which has to be built. -/
def built (change : InPlace EditError BundlePlan Unit) :
    InPlace EditError (Option BundlePlan) Unit :=
  change.present .bundleDisabled

/-- Add a substitution, for a pullspec that has none yet. -/
def addSubstitution (substitution : Substitution) : InPlace EditError BundlePlan Unit := do
  let plan ← get
  InPlace.require (plan.findSubstitution? substitution.pullspec).isNone .duplicateSubstitution
  set { plan with substitutions := plan.substitutions ++ [substitution] }

/-- Take out the substitution at a position. -/
def removeSubstitution (index : Nat) : InPlace EditError BundlePlan Unit :=
  InPlace.part (·.substitutions) (fun plan substitutions => { plan with substitutions })
    (removeEntry index)

end BundlePlan

namespace TestPlan

/-- Whether two tests have the same name, ignoring case. -/
def sameName (left right : TestPlan) : Bool :=
  Text.sameIgnoringCase left.name right.name

/-- A test may enter a list when no other entry has its name and it is complete. -/
def admissible (others : List TestPlan) (test : TestPlan) : Except EditError Unit :=
  if others.any (·.sameName test) then .error .duplicateTest
  else if test.isComplete then .ok ()
  else .error .incompleteTest

/-- Add a test. -/
def add (test : TestPlan) : InPlace EditError (List TestPlan) Unit := do
  let tests ← get
  ofExcept (admissible tests test)
  set (tests ++ [test])

/-- Put a test into a slot. It is compared with the tests outside the slot. -/
def replace (index : Nat) (test : TestPlan) : InPlace EditError (List TestPlan) Unit := do
  let tests ← get
  InPlace.require (index < tests.length) (.noSuchEntry index)
  ofExcept (admissible (tests.eraseIdx index) test)
  set (tests.set index test)

end TestPlan

namespace Answers

/-- Change the build plan. -/
def onBuild (change : InPlace EditError BuildPlan Unit) : InPlace EditError Answers Unit :=
  InPlace.part (·.build) (fun answers build => { answers with build }) change

/-- Change the bundle plan, or the decision whether there is one. -/
def onBundle (change : InPlace EditError (Option BundlePlan) Unit) :
    InPlace EditError Answers Unit :=
  onBuild (BuildPlan.onBundle change)

/-- Change the tests. -/
def onTests (change : InPlace EditError (List TestPlan) Unit) : InPlace EditError Answers Unit :=
  InPlace.part (·.tests) (fun answers tests => { answers with tests }) change

end Answers

/-- The change that an edit makes to the answers. -/
def Edit.change : Edit → InPlace EditError Answers Unit
  | identity field text => modify (·.withIdentity field text)
  | promotion flag value => Answers.onBuild (modify (·.withPromotion flag value))
  | buildText field text => Answers.onBuild (modify (·.withText field text))
  | addImage image => Answers.onBuild (BuildPlan.addImage image)
  | removeImage index => Answers.onBuild (BuildPlan.removeImage index)
  | enableBundle => Answers.onBundle BundlePlan.enable
  | disableBundle => Answers.onBundle BundlePlan.disable
  | bundleText field text =>
    Answers.onBundle (BundlePlan.built (modify (·.withText field text)))
  | upgrade strategy =>
    Answers.onBundle (BundlePlan.built (modify ({ · with upgrade := some strategy })))
  | addSubstitution substitution =>
    Answers.onBundle (BundlePlan.built (BundlePlan.addSubstitution substitution))
  | removeSubstitution index =>
    Answers.onBundle (BundlePlan.built (BundlePlan.removeSubstitution index))
  | addTest test => Answers.onTests (TestPlan.add test)
  | replaceTest index test => Answers.onTests (TestPlan.replace index test)
  | removeTest index => Answers.onTests (removeEntry index)
  | releaseStream stream =>
    Answers.onBuild (BuildPlan.onRelease (modify ({ · with stream })))
  | releaseVersion text =>
    Answers.onBuild (BuildPlan.onRelease (modify ({ · with version := some text })))

/-- The answers after an edit that is made on a copy of them, or why it is refused. -/
def Edit.apply (answers : Answers) (edit : Edit) : Except EditError Answers :=
  edit.change.apply answers

end Onboarding
