import Onboarding.Proofs.Edit.ScalarPath
import Onboarding.Proofs.Session.Operation

/-! # Assignments are edits of the wire form

A text that is assigned to a path changes answers as if their wire form had been changed at that
path and read again (`Onboarding.assignment_edits_wire_form`). The path has to lead to a scalar
outside every list, and the text has to denote a value there. Fields of the bundle plan can be
assigned only when a bundle is built, apart from the flag that says whether one is.

Each edit that an assignment can stand for is compared with one change of the wire form
(`Onboarding.Edit.Assigns`); the edits of a part are compared on that part.
-/

namespace Onboarding

open Json

/-! ## What a text denotes -/

/-- The kinds of scalars in the wire form of answers. -/
inductive ScalarKind where
  | flag
  | strategy
  | stream
  | text
  deriving DecidableEq, Repr

/-- The value in the wire form that a text denotes. Flags and names are read from the trimmed
text, those of streams in whatever case; as a text, every text is taken as it is. -/
def ScalarKind.denoted? (text : String) : ScalarKind → Option Json
  | flag => ([("true", true), ("false", false)].lookup (Text.trim text)).map .bool
  | strategy => ((UpgradeStrategy.names.map Prod.fst).find? (· == Text.trim text)).map .string
  | stream =>
    ((ReleaseStream.wireNames.map Prod.fst).find?
      (Text.sameIgnoringCase · (Text.trim text))).map .string
  | .text => some (.string text)

namespace Answers

/-- The paths of flags. -/
def flagPaths : List (List String) :=
  [["buildSettings", "buildPromotes"], ["buildSettings", "partOfOSRelease"],
    ["buildSettings", "needsBase"], ["buildSettings", "needsOS"],
    ["buildSettings", "operatorConfig", "isOperator"]]

/-- The kind of the scalar that a path of the wire form leads to. -/
def scalarKind (keys : List String) : ScalarKind :=
  if keys ∈ flagPaths then .flag
  else if keys = ["buildSettings", "operatorConfig", "updateGraph"] then .strategy
  else if keys = ["buildSettings", "release", "type"] then .stream
  else .text

/-- Whether a path leads into the bundle plan, other than to its flag. -/
def isInBundle (keys : List String) : Bool :=
  ["buildSettings", "operatorConfig"].isPrefixOf keys &&
    keys != ["buildSettings", "operatorConfig", "isOperator"]

/-- The answers with a text assigned to a path, or the reason why it cannot be. -/
def assign (answers : Answers) (path text : String) : Except EditError Answers :=
  (Edit.ofText path text).bind fun edit => edit.apply answers

end Answers

/-- A name is recognised if it is among the names. -/
theorem toOption_recognise {α : Type} (kind : String) (names : List (String × α))
    (key text : String) : (recognise kind names key text).toOption = names.lookup key := by
  unfold recognise
  cases names.lookup key <;> rfl

/-- A key is among those of some entries exactly if it has a value there. -/
theorem find?_keys {α : Type} (entries : List (String × α)) (key : String) :
    (entries.map Prod.fst).find? (· == key) = (entries.lookup key).map fun _ => key := by
  induction entries with
  | nil => rfl
  | cons entry rest ih =>
      rw [List.map_cons, List.find?_cons, KeyMap.lookup_cons, ih]
      by_cases same : key = entry.1
      · subst same
        simp
      · have differs : (entry.1 == key) = false := beq_eq_false_iff_ne.mpr (Ne.symm same)
        rw [differs, if_neg same]

namespace ScalarKind

/-- A flag is denoted by true or false, with white space around it or not. -/
theorem denoted?_flag (text : String) :
    flag.denoted? text = (flagOfText? (Text.trim text)).map .bool := by
  unfold denoted? flagOfText?
  rw [KeyMap.lookup_cons, KeyMap.lookup_cons]
  rfl

/-- A strategy is denoted by any of its names, and stands there under that name. -/
theorem denoted?_strategy (text : String) :
    strategy.denoted? text =
      (UpgradeStrategy.ofText? (Text.trim text)).toOption.map fun _ =>
        .string (Text.trim text) := by
  rw [denoted?, find?_keys, UpgradeStrategy.ofText?, toOption_recognise, Option.map_map]
  rfl

/-- A stream is denoted by its name in whatever case, and stands there under the name it is
written with. -/
theorem denoted?_stream (text : String) :
    stream.denoted? text =
      (ReleaseStream.ofText? (Text.trim text)).toOption.map ReleaseStream.toJson := by
  have lowered : Text.lower "No" = "no" ∧ Text.lower "Published" = "published" ∧
      Text.lower "Nightly" = "nightly" := by decide +kernel
  rw [ReleaseStream.ofText?, toOption_recognise]
  simp only [denoted?, ReleaseStream.wireNames, ReleaseStream.all, List.map_cons, List.map_nil,
    ReleaseStream.wireName, ReleaseStream.name, List.find?_cons, List.find?_nil,
    Text.sameIgnoringCase, lowered, KeyMap.lookup_cons, List.lookup_nil]
  generalize Text.lower (Text.trim text) = name
  by_cases isNo : name = "no"
  · subst isNo
    rfl
  by_cases isPublished : name = "published"
  · subst isPublished
    rfl
  by_cases isNightly : name = "nightly"
  · subst isNightly
    rfl
  have others : ("no" == name) = false ∧ ("published" == name) = false ∧
      ("nightly" == name) = false := by
    simp only [beq_eq_false_iff_ne]
    exact ⟨Ne.symm isNo, Ne.symm isPublished, Ne.symm isNightly⟩
  simp only [others, if_neg isNo, if_neg isPublished, if_neg isNightly]
  rfl

end ScalarKind

/-! ## Reading what was assigned -/

namespace ReleaseChoice

variable (release : ReleaseChoice)

/-- With another stream assigned, a release is read that has it. -/
theorem read_assign_stream (stream : ReleaseStream) :
    read Json.source (release.toJson.assign ["type"] stream.toJson) = .ok { release with stream } :=
  release.holds_toJson.read_assign (lawful_shape Json.source) "type" rfl stream.read_toJson

theorem read_assign_version (text : String) :
    read Json.source (release.toJson.assign ["version"] (.string text)) =
      .ok { release with version := some text } :=
  release.holds_toJson.read_assign (lawful_shape Json.source) "version" rfl rfl

end ReleaseChoice

namespace BundlePlan

/-- With the flag of a bundle assigned, the bundle is read if the flag is set, a blank one
if there was none. -/
theorem read?_assign_flag (plan : Option BundlePlan) (built : Bool) :
    read? Json.source ((toJson? plan).assign ["isOperator"] (.bool built)) =
      .ok (if built then some (plan.getD blank) else none) :=
  read?_object ((FlaggedBundlePlan.holds_toJson? plan).assign
    (FlaggedBundlePlan.lawful_shape Json.source) "isOperator" rfl rfl)

variable (plan : BundlePlan)

/-- With a text assigned, a bundle is read that has it. -/
theorem read?_assign_text (field : BundleText) (text : String) :
    read? Json.source ((toJson? (some plan)).assign [field.key] (.string text)) =
      .ok (some (plan.withText field text)) := by
  have holds := FlaggedBundlePlan.holds_toJson? (some plan)
  have lawful := FlaggedBundlePlan.lawful_shape Json.source
  cases field with
  | name => exact read?_object (holds.assign lawful "name" rfl rfl)
  | dockerfilePath => exact read?_object (holds.assign lawful "dockerfilePath" rfl rfl)
  | contextDir => exact read?_object (holds.assign lawful "contextDir" rfl rfl)
  | baseIndex => exact read?_object (holds.assign lawful "baseIndex" rfl rfl)

/-- With a name of a strategy assigned, a bundle is read that has the strategy. -/
theorem read?_assign_upgrade {name : String} {strategy : UpgradeStrategy}
    (isNamed : UpgradeStrategy.names.lookup name = some strategy) :
    read? Json.source ((toJson? (some plan)).assign ["updateGraph"] (.string name)) =
      .ok (some { plan with upgrade := some strategy }) := by
  have reads : Json.source.optional (UpgradeStrategy.read Json.source) (.string name) =
      .ok (some strategy) := by
    change (Json.named UpgradeStrategy.names name).map some = _
    rw [Json.named, isNamed]
    rfl
  have assigned : ((toJson? (some plan)).assign ["updateGraph"] (.string name)).Holds
      (FlaggedBundlePlan.shape Json.source) ⟨true, { plan with upgrade := some strategy }⟩ :=
    (FlaggedBundlePlan.holds_toJson? (some plan)).assign
      (FlaggedBundlePlan.lawful_shape Json.source) "updateGraph" rfl reads
  exact read?_object assigned

end BundlePlan

namespace BuildPlan

variable (plan : BuildPlan) {keys : List String} {value : Json}

/-- With a flag assigned, build parameters are read that have it. -/
theorem read_assign_promotion (flag : PromotionFlag) (value : Bool) :
    read Json.source (plan.toJson.assign [flag.key] (.bool value)) =
      .ok (plan.withPromotion flag value) := by
  have holds := plan.holds_toJson
  have lawful := lawful_shape Json.source
  cases flag with
  | promotes => exact holds.read_assign lawful "buildPromotes" rfl rfl
  | inRelease => exact holds.read_assign lawful "partOfOSRelease" rfl rfl
  | needsBase => exact holds.read_assign lawful "needsBase" rfl rfl
  | needsOs => exact holds.read_assign lawful "needsOS" rfl rfl

theorem read_assign_text (field : BuildText) (text : String) :
    read Json.source (plan.toJson.assign [field.key] (.string text)) =
      .ok (plan.withText field text) := by
  have holds := plan.holds_toJson
  have lawful := lawful_shape Json.source
  cases field with
  | goVersion => exact holds.read_assign lawful "goVersion" rfl rfl
  | importPath => exact holds.read_assign lawful "canonicalGoRepository" rfl rfl
  | buildCommands => exact holds.read_assign lawful "buildCommands" rfl rfl
  | testBuildCommands => exact holds.read_assign lawful "testBuildCommands" rfl rfl

/-- An assignment within the bundle is read as far as the bundle is. -/
theorem read_assign_bundle {bundle : Option BundlePlan}
    (reads : BundlePlan.read? Json.source ((BundlePlan.toJson? plan.bundle).assign keys value) =
      .ok bundle) :
    read Json.source (plan.toJson.assign ("operatorConfig" :: keys) value) =
      .ok { plan with bundle } := by
  have isThere : (plan.toJson.member? "operatorConfig").getD null =
      BundlePlan.toJson? plan.bundle := by
    simp [toJson, member?, lookup_optionalMember, List.lookup_append, List.lookup_cons]
  rw [← isThere] at reads
  exact plan.holds_toJson.read_assign (lawful_shape Json.source) "operatorConfig" rfl reads

/-- An assignment within the release is read as far as the release is. -/
theorem read_assign_release {release : ReleaseChoice}
    (reads : ReleaseChoice.read Json.source (plan.release.toJson.assign keys value) =
      .ok release) :
    read Json.source (plan.toJson.assign ("release" :: keys) value) =
      .ok { plan with release } := by
  have isThere : (plan.toJson.member? "release").getD null = plan.release.toJson := by
    simp [toJson, member?, lookup_optionalMember, List.lookup_append, List.lookup_cons]
  rw [← isThere] at reads
  exact plan.holds_toJson.read_assign (lawful_shape Json.source) "release" rfl reads

end BuildPlan

namespace Answers

variable {answers : Answers} (canonical : answers.CloudsCanonical)

include canonical

/-- With an identifying text assigned, answers are read that have it. -/
theorem ofJson?_assign_identity (field : IdentityField) (text : String) :
    ofJson? (answers.toJson.assign [field.name] (.string text)) =
      .ok (answers.withIdentity field text) := by
  have holds := holds_toJson canonical
  have lawful := lawful_shape Json.source
  cases field with
  | org => exact holds.read_assign lawful "org" rfl rfl
  | repo => exact holds.read_assign lawful "repo" rfl rfl
  | branch => exact holds.read_assign lawful "branch" rfl rfl

/-- An assignment within the build parameters is read as far as these are. -/
theorem ofJson?_assign_build {keys : List String} {value : Json} {build : BuildPlan}
    (reads : BuildPlan.read Json.source (answers.build.toJson.assign keys value) = .ok build) :
    ofJson? (answers.toJson.assign ("buildSettings" :: keys) value) =
      .ok { answers with build } :=
  (holds_toJson canonical).read_assign (lawful_shape Json.source) "buildSettings" rfl reads

end Answers

/-! ## Edits and changes of the wire form -/

namespace Edit

/-- An edit has the effect of a change of the wire form at a path; if the path leads into a
bundle plan that is not there, the edit is refused. -/
def Assigns (edit : Edit) (keys : List String) (value : Json) : Prop :=
  ∀ answers : Answers, answers.CloudsCanonical →
    if answers.build.bundle = none ∧ Answers.isInBundle keys = true then
      edit.apply answers = .error .bundleDisabled
    else
      ∃ after, edit.apply answers = .ok after ∧
        Answers.ofJson? (answers.toJson.assign keys value) = .ok after

variable {edit : Edit} {keys : List String} {value : Json}

/-- Outside the bundle an edit is never refused, so that it assigns a value if what is read
of the assignment is what it comes to. -/
theorem Assigns.of_outside (outside : Answers.isInBundle keys = false)
    (assigns : ∀ answers : Answers, answers.CloudsCanonical → ∃ after,
      edit.apply answers = .ok after ∧
        Answers.ofJson? (answers.toJson.assign keys value) = .ok after) :
    edit.Assigns keys value := by
  intro answers canonical
  rw [if_neg fun inside => Bool.false_ne_true (outside.symm.trans inside.2)]
  exact assigns answers canonical

/-- An identifying text is assigned by its edit. -/
theorem assigns_identity (field : IdentityField) (text : String) :
    (identity field text).Assigns [field.name] (.string text) := by
  have outside : Answers.isInBundle [field.name] = false := by cases field <;> decide
  exact .of_outside outside fun answers canonical =>
    ⟨_, rfl, Answers.ofJson?_assign_identity canonical field text⟩

/-- An edit of the build plan, outside the bundle plan, is compared on the build plan. -/
theorem assigns_build {change : BuildPlan → BuildPlan}
    (outside : Answers.isInBundle ("buildSettings" :: keys) = false)
    (applies : ∀ answers, edit.apply answers =
      .ok { answers with build := change answers.build })
    (reads : ∀ plan : BuildPlan,
      BuildPlan.read Json.source (plan.toJson.assign keys value) = .ok (change plan)) :
    edit.Assigns ("buildSettings" :: keys) value :=
  .of_outside outside fun answers canonical =>
    ⟨_, applies answers, Answers.ofJson?_assign_build canonical (reads answers.build)⟩

theorem assigns_promotion (flag : PromotionFlag) (value : Bool) :
    (promotion flag value).Assigns ["buildSettings", flag.key] (.bool value) :=
  assigns_build (by cases flag <;> decide) (fun _ => rfl) (·.read_assign_promotion flag value)

theorem assigns_buildText (field : BuildText) (text : String) :
    (buildText field text).Assigns ["buildSettings", field.key] (.string text) :=
  assigns_build (by cases field <;> decide) (fun _ => rfl) (·.read_assign_text field text)

/-- That a bundle is built, or not, is assigned by enabling or disabling it. -/
theorem assigns_bundleBuilt (built : Bool) :
    (if built then enableBundle else disableBundle).Assigns
      ["buildSettings", "operatorConfig", "isOperator"] (.bool built) := by
  have reads (plan : BuildPlan) :=
    plan.read_assign_bundle (BundlePlan.read?_assign_flag plan.bundle built)
  cases built with
  | true => exact assigns_build (by decide) (fun _ => rfl) reads
  | false => exact assigns_build (by decide) (fun _ => rfl) reads

theorem assigns_releaseStream (stream : ReleaseStream) :
    (releaseStream stream).Assigns ["buildSettings", "release", "type"] stream.toJson :=
  assigns_build (by decide) (fun _ => rfl) fun plan =>
    plan.read_assign_release (plan.release.read_assign_stream stream)

theorem assigns_releaseVersion (text : String) :
    (releaseVersion text).Assigns ["buildSettings", "release", "version"] (.string text) :=
  assigns_build (by decide) (fun _ => rfl) fun plan =>
    plan.read_assign_release (plan.release.read_assign_version text)

/-- An edit of the bundle plan is compared on that plan. -/
theorem assigns_bundle {change : BundlePlan → BundlePlan} {key : String}
    (inside : Answers.isInBundle ["buildSettings", "operatorConfig", key] = true)
    (applies : ∀ answers, edit.apply answers =
      (Answers.onBundle (BundlePlan.built (modify change))).apply answers)
    (reads : ∀ plan : BundlePlan,
      BundlePlan.read? Json.source ((BundlePlan.toJson? (some plan)).assign [key] value) =
        .ok (some (change plan))) :
    edit.Assigns ["buildSettings", "operatorConfig", key] value := by
  intro answers canonical
  rw [applies answers, Answers.onBundle, Answers.onBuild, BuildPlan.onBundle, BundlePlan.built,
    InPlace.apply_part, InPlace.apply_part]
  cases built : answers.build.bundle with
  | none =>
      rw [if_pos ⟨rfl, inside⟩]
      rfl
  | some plan =>
      have readsBuild := answers.build.read_assign_bundle (built ▸ reads plan)
      rw [if_neg fun absent => nomatch absent.1]
      exact ⟨_, rfl, Answers.ofJson?_assign_build canonical readsBuild⟩

/-- A text of the bundle is assigned by its edit, and both fail without a bundle. -/
theorem assigns_bundleText (field : BundleText) (text : String) :
    (bundleText field text).Assigns ["buildSettings", "operatorConfig", field.key]
      (.string text) :=
  assigns_bundle (by cases field <;> decide) (fun _ => rfl) (·.read?_assign_text field text)

/-- A strategy is assigned by its edit, whichever of its names is used. -/
theorem assigns_upgrade {name : String} {strategy : UpgradeStrategy}
    (isNamed : UpgradeStrategy.names.lookup name = some strategy) :
    (upgrade strategy).Assigns ["buildSettings", "operatorConfig", "updateGraph"]
      (.string name) :=
  assigns_bundle (by decide) (fun _ => rfl) (·.read?_assign_upgrade isNamed)

end Edit

/-- What a text denotes at the path of a field decides whether there is an edit for it, and then
has the effect of that edit. -/
theorem FieldPath.edit?_cases (field : FieldPath) (text : String) :
    match (Answers.scalarKind field.keys).denoted? text with
    | none => field.edit? text = none
    | some value => ∃ edit, field.edit? text = some edit ∧ edit.Assigns field.keys value := by
  cases field with
  | identity field =>
      have isText : Answers.scalarKind (identity field).keys = .text := by cases field <;> decide
      rw [isText]
      exact ⟨_, rfl, Edit.assigns_identity field text⟩
  | promotion flag =>
      have isFlag : Answers.scalarKind (promotion flag).keys = .flag := by cases flag <;> decide
      rw [isFlag, ScalarKind.denoted?_flag, edit?]
      cases flagOfText? (Text.trim text) with
      | none => rfl
      | some value => exact ⟨_, rfl, Edit.assigns_promotion flag value⟩
  | buildText field =>
      have isText : Answers.scalarKind (buildText field).keys = .text := by cases field <;> decide
      rw [isText]
      exact ⟨_, rfl, Edit.assigns_buildText field text⟩
  | bundleBuilt =>
      have isFlag : Answers.scalarKind bundleBuilt.keys = .flag := by decide
      rw [isFlag, ScalarKind.denoted?_flag, edit?]
      cases flagOfText? (Text.trim text) with
      | none => rfl
      | some built => exact ⟨_, rfl, Edit.assigns_bundleBuilt built⟩
  | bundleText field =>
      have isText : Answers.scalarKind (bundleText field).keys = .text := by
        cases field <;> decide
      rw [isText]
      exact ⟨_, rfl, Edit.assigns_bundleText field text⟩
  | upgrade =>
      have isStrategy : Answers.scalarKind upgrade.keys = .strategy := by decide
      rw [isStrategy, ScalarKind.denoted?_strategy, edit?, UpgradeStrategy.ofText?,
        toOption_recognise]
      cases isNamed : UpgradeStrategy.names.lookup (Text.trim text) with
      | none => rfl
      | some strategy => exact ⟨_, rfl, Edit.assigns_upgrade isNamed⟩
  | releaseStream =>
      have isStream : Answers.scalarKind releaseStream.keys = .stream := by decide
      rw [isStream, ScalarKind.denoted?_stream, edit?]
      cases (ReleaseStream.ofText? (Text.trim text)).toOption with
      | none => rfl
      | some stream => exact ⟨_, rfl, Edit.assigns_releaseStream stream⟩
  | releaseVersion =>
      have isText : Answers.scalarKind releaseVersion.keys = .text := by decide
      rw [isText]
      exact ⟨_, rfl, Edit.assigns_releaseVersion text⟩

/-- In a session, a text is assigned to a path in the answers, and the stage is checked. -/
theorem Session.set_eq (service : Service) (session : Session) (path text : String) :
    session.set service path (some text) =
      (session.answers.assign path text).map fun answers =>
        { session with answers }.check service := by
  rw [set_eq_of_assignment, Edit.ofAssignment, Answers.assign]
  cases Edit.ofText path text with
  | error _ => rfl
  | ok edit => exact dispatch_eq service session edit

/-- A text assigned to a path is refused if the path leads to no scalar of the wire form, if the
text denotes no value there, or if the path leads into a bundle plan that is not there; a session
is left as it was then. Otherwise the answers become what is read of their wire form with the
value that the text denotes at the path. -/
theorem assignment_edits_wire_form (answers : Answers) (canonical : answers.CloudsCanonical)
    (path text : String) :
    let result := answers.assign path text
    ((∀ keys, Answers.IsScalarPath keys → path ≠ ".".intercalate keys) →
      result = .error (.unknownField path)) ∧
    (∀ keys, Answers.IsScalarPath keys → path = ".".intercalate keys →
      match (Answers.scalarKind keys).denoted? text with
      | none => result = .error (.invalidValue path text)
      | some value =>
        if answers.build.bundle = none ∧ Answers.isInBundle keys = true then
          result = .error .bundleDisabled
        else
          ∃ after, result = .ok after ∧
            Answers.ofJson? (answers.toJson.assign keys value) = .ok after) ∧
    ∀ error, result = .error error → ∀ (service : Service) (session : Session),
      session.answers = answers →
        session.perform service (.set path (some text)) = (session, false) := by
  intro result
  have isResult : result = (Edit.ofText path text).bind fun edit => edit.apply answers := rfl
  refine ⟨fun unknown => ?_, ?_, ?_⟩
  · rw [isResult, Edit.ofText, FieldPath.ofText?_eq_none_iff.mpr unknown]
    rfl
  · rintro keys isPath rfl
    obtain ⟨field, rfl⟩ := FieldPath.exists_keys_eq_iff.mpr isPath
    rw [isResult, Edit.ofText, FieldPath.ofText?_eq_some_iff.mpr rfl]
    have outcome := field.edit?_cases text
    cases denoted : (Answers.scalarKind field.keys).denoted? text with
    | none =>
        rw [denoted] at outcome
        simp only [outcome]
        rfl
    | some value =>
        rw [denoted] at outcome
        obtain ⟨edit, isEdit, assigns⟩ := outcome
        simp only [isEdit]
        exact assigns answers canonical
  · rintro error refused service session rfl
    have isRefused : session.set service path (some text) = .error error := by
      rw [session.set_eq service path text]
      change result.map _ = _
      rw [refused]
      rfl
    -- a refused assignment leaves no trace
    rcases Session.attempt_cases (Session.isAtomic_set service path (some text)) session with
      ⟨after, assigned, _⟩ | ⟨_, _, attempted⟩
    · cases assigned.symm.trans isRefused
    · exact attempted

/-- The name of a stream is assigned whatever the white space around it and its letter case, and
stands in the wire form as that form has it. -/
theorem assignment_edits_sample :
    let after : Answers := { Answers.sample with
      build := { Answers.sample.build with release := ⟨.nightly, none⟩ } }
    Answers.sample.CloudsCanonical ∧
    Answers.sample.assign "buildSettings.release.type" " NIGHTLY " = .ok after ∧
    Answers.ofJson? (Answers.sample.toJson.assign ["buildSettings", "release", "type"]
      (.string "Nightly")) = .ok after := by
  intro after
  have canonical : Answers.sample.CloudsCanonical := by
    rintro test member cloud isCloud
    obtain rfl := List.mem_singleton.mp member
    cases isCloud
  have isField : FieldPath.ofText? "buildSettings.release.type" = some .releaseStream := by
    decide +kernel
  have isEdit : FieldPath.releaseStream.edit? " NIGHTLY " = some (.releaseStream .nightly) := by
    decide +kernel
  have assigned : Answers.sample.assign "buildSettings.release.type" " NIGHTLY " = .ok after := by
    simp only [Answers.assign, Edit.ofText, isField, isEdit]
    rfl
  have denoted : (Answers.scalarKind FieldPath.releaseStream.keys).denoted? " NIGHTLY " =
      some (.string "Nightly") := by
    have isStream : (ReleaseStream.ofText? (Text.trim " NIGHTLY ")).toOption = some .nightly := by
      decide +kernel
    have isKind : Answers.scalarKind FieldPath.releaseStream.keys = .stream := by decide
    rw [isKind, ScalarKind.denoted?_stream, isStream]
    rfl
  have edits := (assignment_edits_wire_form .sample canonical "buildSettings.release.type"
    " NIGHTLY ").2.1 FieldPath.releaseStream.keys ⟨_, FieldPath.hasScalarAt_keys _⟩
    (FieldPath.ofText?_eq_some_iff.mp isField).symm
  rw [denoted] at edits
  obtain ⟨other, isOther, reads⟩ := edits
  obtain rfl : after = other := Except.ok.inj (assigned.symm.trans isOther)
  exact ⟨canonical, assigned, reads⟩

end Onboarding
