import Mathlib.Logic.Function.Basic
import Onboarding.Proofs.Edit.Atomicity
import Onboarding.Proofs.Edit.Lists
import Onboarding.Proofs.Edit.ScalarPath
import Onboarding.Proofs.Text.Blank

/-! # Answers spelled out as assignments

Answers without entries in their lists are known by the texts of the fields that have a path
(`Onboarding.Answers.eq_of_textAt?_eq`). An assignment of the text that some answers show for a
field changes the text of that field to it and of no other field
(`Onboarding.FieldPath.exists_apply`). So the assignments of all texts that are there, in an
order that has the bundle built before it is described, make the answers out of blank ones
(`Onboarding.assignments_make_answers`).
-/

namespace Onboarding

/-! ## The texts of fields -/

/-- The spelling of a flag. -/
def flagName (value : Bool) : String :=
  if value then "true" else "false"

namespace BuildPlan

/-- The value of a flag. -/
def promotion (plan : BuildPlan) : PromotionFlag → Bool
  | .promotes => plan.promotes
  | .inRelease => plan.inRelease
  | .needsBase => plan.needsBase
  | .needsOs => plan.needsOs

/-- The text of a field of the build parameters. -/
def text? (plan : BuildPlan) : BuildText → Option String
  | .goVersion => plan.goVersion
  | .importPath => plan.importPath
  | .buildCommands => plan.buildCommands
  | .testBuildCommands => plan.testBuildCommands

end BuildPlan

/-- The text of a field of a bundle. -/
def BundlePlan.text? (plan : BundlePlan) : BundleText → Option String
  | .name => plan.name
  | .dockerfilePath => plan.dockerfilePath
  | .contextDir => plan.contextDir
  | .baseIndex => plan.baseIndex

namespace FieldPath

/-- Whether a field is there only when a bundle is built, and says more than that. -/
def isInBundle : FieldPath → Bool
  | bundleText _ | upgrade => true
  | _ => false

end FieldPath

namespace Answers

/-- The text of a field as it is shown, if the field is there. -/
def textAt? (answers : Answers) : FieldPath → Option String
  | .identity field => some (answers.identity field)
  | .promotion flag => some (flagName (answers.build.promotion flag))
  | .buildText field => answers.build.text? field
  | .bundleBuilt => answers.build.bundle.map fun _ => flagName true
  | .bundleText field => answers.build.bundle.bind (·.text? field)
  | .upgrade => answers.build.bundle.bind fun plan => plan.upgrade.map UpgradeStrategy.name
  | .releaseStream => some answers.build.release.stream.name
  | .releaseVersion => answers.build.release.version

/-- There is no entry in any of the lists. -/
structure HasNoEntries (answers : Answers) : Prop where
  baseImages : answers.build.baseImages = []
  substitutions : answers.substitutions = []
  tests : answers.tests = []

end Answers

/-- A flag is read back from its spelling. -/
theorem flagOfText?_flagName (value : Bool) :
    flagOfText? (Text.trim (flagName value)) = some value := by
  cases value <;> decide +kernel

theorem flagName_inj {left right : Bool} : flagName left = flagName right ↔ left = right := by
  cases left <;> cases right <;> decide

/-- A strategy is read back from its name. -/
theorem UpgradeStrategy.ofText?_name (strategy : UpgradeStrategy) :
    ofText? (Text.trim strategy.name) = .ok strategy := by
  cases strategy <;> decide +kernel

/-- A stream is read back from the name it has in documents. -/
theorem ReleaseStream.ofText?_name (stream : ReleaseStream) :
    ofText? (Text.trim stream.name) = .ok stream := by
  cases stream <;> decide +kernel

/-! ## What an assignment changes -/

namespace Answers

variable (answers : Answers)

/-- An identifying text is the text of its field, and of no other. -/
theorem textAt?_withIdentity (field : IdentityField) (text : String) :
    (answers.withIdentity field text).textAt? =
      Function.update answers.textAt? (.identity field) (some text) := by
  funext other
  cases other with
  | identity other => cases field <;> cases other <;> rfl
  | _ => cases field <;> rfl

/-- A flag is the text of its field, and of no other. -/
theorem textAt?_withPromotion (flag : PromotionFlag) (value : Bool) :
    { answers with build := answers.build.withPromotion flag value }.textAt? =
      Function.update answers.textAt? (.promotion flag) (some (flagName value)) := by
  funext other
  cases other with
  | promotion other => cases flag <;> cases other <;> rfl
  | _ => cases flag <;> rfl

theorem textAt?_withText (field : BuildText) (text : String) :
    { answers with build := answers.build.withText field text }.textAt? =
      Function.update answers.textAt? (.buildText field) (some text) := by
  funext other
  cases other with
  | buildText other => cases field <;> cases other <;> rfl
  | _ => cases field <;> rfl

/-- Building a bundle gives none of its fields a text. -/
theorem textAt?_withBundle :
    { answers with build := { answers.build with
      bundle := some (answers.build.bundle.getD BundlePlan.blank) } }.textAt? =
      Function.update answers.textAt? .bundleBuilt (some (flagName true)) := by
  funext other
  cases other with
  | bundleText other =>
      rw [Function.update_of_ne FieldPath.noConfusion, textAt?, textAt?]
      cases answers.build.bundle with
      | none => cases other <;> rfl
      | some plan => rfl
  | upgrade =>
      rw [Function.update_of_ne FieldPath.noConfusion, textAt?, textAt?]
      cases answers.build.bundle <;> rfl
  | _ => rfl

theorem textAt?_withStream (stream : ReleaseStream) :
    { answers with build := { answers.build with
      release := { answers.build.release with stream } } }.textAt? =
      Function.update answers.textAt? .releaseStream (some stream.name) := by
  funext other
  cases other <;> rfl

theorem textAt?_withVersion (text : String) :
    { answers with build := { answers.build with
      release := { answers.build.release with version := some text } } }.textAt? =
      Function.update answers.textAt? .releaseVersion (some text) := by
  funext other
  cases other <;> rfl

variable {answers} {plan : BundlePlan} (isBundle : answers.build.bundle = some plan)

include isBundle

theorem textAt?_withBundleText (field : BundleText) (text : String) :
    { answers with build := { answers.build with
      bundle := some (plan.withText field text) } }.textAt? =
      Function.update answers.textAt? (.bundleText field) (some text) := by
  funext other
  cases other with
  | bundleText other =>
      rw [Function.update_apply, textAt?, textAt?, isBundle]
      cases field <;> cases other <;> rfl
  | bundleBuilt | upgrade =>
      rw [Function.update_of_ne FieldPath.noConfusion, textAt?, textAt?, isBundle]
      cases field <;> rfl
  | _ => rfl

theorem textAt?_withUpgrade (strategy : UpgradeStrategy) :
    { answers with build := { answers.build with
      bundle := some { plan with upgrade := some strategy } } }.textAt? =
      Function.update answers.textAt? .upgrade (some strategy.name) := by
  funext other
  cases other with
  | bundleText other =>
      rw [Function.update_of_ne FieldPath.noConfusion, textAt?, textAt?, isBundle]
      cases other <;> rfl
  | bundleBuilt =>
      rw [Function.update_of_ne FieldPath.noConfusion, textAt?, textAt?, isBundle]
      rfl
  | _ => rfl

end Answers

namespace FieldPath

/-- The text that some answers show for a field makes an edit, which gives the field that text in
other answers and leaves the texts of all other fields as they are. For a field of the bundle
plan a bundle has to be built. -/
theorem exists_apply {target answers : Answers} {field : FieldPath} {text : String}
    (shown : target.textAt? field = some text)
    (built : field.isInBundle = true → answers.build.bundle.isSome = true) :
    ∃ edit after, field.edit? text = some edit ∧ edit.apply answers = .ok after ∧
      after.textAt? = Function.update answers.textAt? field (some text) := by
  cases field with
  | identity field => exact ⟨_, _, rfl, rfl, answers.textAt?_withIdentity field text⟩
  | promotion flag =>
      obtain rfl := Option.some.inj shown
      refine ⟨.promotion flag _, _, ?_, rfl, answers.textAt?_withPromotion flag _⟩
      rw [edit?, flagOfText?_flagName]
      rfl
  | buildText field => exact ⟨_, _, rfl, rfl, answers.textAt?_withText field text⟩
  | bundleBuilt =>
      obtain ⟨_, _, rfl⟩ := Option.map_eq_some_iff.mp shown
      refine ⟨.enableBundle, _, ?_, rfl, answers.textAt?_withBundle⟩
      rw [edit?, flagOfText?_flagName]
      rfl
  | bundleText field =>
      obtain ⟨plan, isBundle⟩ := Option.isSome_iff_exists.mp (built rfl)
      refine ⟨_, _, rfl, ?_, Answers.textAt?_withBundleText isBundle field text⟩
      exact Answers.onBuiltBundle_eq_ok_iff.mpr ⟨plan, isBundle, _, rfl, rfl⟩
  | upgrade =>
      obtain ⟨plan, isBundle⟩ := Option.isSome_iff_exists.mp (built rfl)
      obtain ⟨targetPlan, _, isUpgrade⟩ := Option.bind_eq_some_iff.mp shown
      obtain ⟨strategy, _, rfl⟩ := Option.map_eq_some_iff.mp isUpgrade
      refine ⟨.upgrade strategy, _, ?_, ?_, Answers.textAt?_withUpgrade isBundle strategy⟩
      · rw [edit?, UpgradeStrategy.ofText?_name]
        rfl
      · exact Answers.onBuiltBundle_eq_ok_iff.mpr ⟨plan, isBundle, _, rfl, rfl⟩
  | releaseStream =>
      obtain rfl := Option.some.inj shown
      refine ⟨.releaseStream _, _, ?_, rfl, answers.textAt?_withStream _⟩
      rw [edit?, ReleaseStream.ofText?_name]
      rfl
  | releaseVersion => exact ⟨_, _, rfl, rfl, answers.textAt?_withVersion text⟩

/-- The edits that assignments make change no list. -/
theorem isOfList_of_edit? {field : FieldPath} {text : String} {edit : Edit}
    (isEdit : field.edit? text = some edit) : edit.isOfList = false := by
  cases field with
  | identity _ | buildText _ | bundleText _ | releaseVersion =>
      cases isEdit
      rfl
  | promotion _ | upgrade | releaseStream =>
      rw [edit?, Option.map_eq_some_iff] at isEdit
      obtain ⟨_, _, rfl⟩ := isEdit
      rfl
  | bundleBuilt =>
      rw [edit?, Option.map_eq_some_iff] at isEdit
      obtain ⟨value, _, rfl⟩ := isEdit
      cases value <;> rfl

end FieldPath

/-- Edits of scalars bring no entries into the lists. -/
theorem Answers.HasNoEntries.apply {answers after : Answers} (none : answers.HasNoEntries)
    {edit : Edit} (scalar : edit.isOfList = false) (applied : edit.apply answers = .ok after) :
    after.HasNoEntries := by
  obtain ⟨images, tests, substitutions⟩ := Edit.lists_of_scalar scalar applied
  refine ⟨images.trans none.baseImages, ?_, tests.trans none.tests⟩
  rcases substitutions with kept | discarded
  · exact kept.trans none.substitutions
  · exact discarded

/-! ## What the texts determine -/

namespace Answers

/-- A field that some answers lack is no field of blank answers. -/
theorem textAt?_blank_of_none {answers : Answers} {field : FieldPath}
    (absent : answers.textAt? field = none) : blank.textAt? field = none := by
  cases field with
  | identity _ | promotion _ | releaseStream => cases absent
  | buildText field => cases field <;> rfl
  | bundleBuilt | bundleText _ | upgrade | releaseVersion => rfl

/-- Bundles without substitutions are known by the texts of their fields. -/
theorem bundle_eq_of_textAt?_eq {left right : Answers} (leftNone : left.HasNoEntries)
    (rightNone : right.HasNoEntries) (same : left.textAt? = right.textAt?) :
    left.build.bundle = right.build.bundle := by
  have built := congrFun same .bundleBuilt
  have text (field : BundleText) := congrFun same (.bundleText field)
  have upgrade := congrFun same .upgrade
  have leftSubstitutions := leftNone.substitutions
  have rightSubstitutions := rightNone.substitutions
  simp only [textAt?] at built text upgrade
  unfold substitutions at leftSubstitutions rightSubstitutions
  cases leftBundle : left.build.bundle with
  | none =>
      cases rightBundle : right.build.bundle with
      | none => rfl
      | some _ =>
          rw [leftBundle, rightBundle] at built
          cases built
  | some leftPlan =>
      cases rightBundle : right.build.bundle with
      | none =>
          rw [leftBundle, rightBundle] at built
          cases built
      | some rightPlan =>
          rw [leftBundle] at text upgrade leftSubstitutions
          rw [rightBundle] at text upgrade rightSubstitutions
          have sameUpgrade : leftPlan.upgrade = rightPlan.upgrade :=
            Option.map_injective (fun _ _ => UpgradeStrategy.name_inj.mp) upgrade
          have sameSubstitutions : leftPlan.substitutions = rightPlan.substitutions :=
            leftSubstitutions.trans rightSubstitutions.symm
          rw [Option.some.injEq, BundlePlan.mk.injEq]
          exact ⟨text .name, text .dockerfilePath, text .contextDir, text .baseIndex, sameUpgrade,
            sameSubstitutions⟩

/-- Answers without entries in their lists are known by the texts of their fields. -/
theorem eq_of_textAt?_eq {left right : Answers} (leftNone : left.HasNoEntries)
    (rightNone : right.HasNoEntries) (same : left.textAt? = right.textAt?) : left = right := by
  have identity (field : IdentityField) : left.identity field = right.identity field :=
    Option.some.inj (congrFun same (.identity field))
  have promotion (flag : PromotionFlag) : left.build.promotion flag = right.build.promotion flag :=
    flagName_inj.mp (Option.some.inj (congrFun same (.promotion flag)))
  have text (field : BuildText) : left.build.text? field = right.build.text? field :=
    congrFun same (.buildText field)
  have stream : left.build.release.stream = right.build.release.stream :=
    ReleaseStream.name_inj.mp (Option.some.inj (congrFun same .releaseStream))
  have version : left.build.release.version = right.build.release.version :=
    congrFun same .releaseVersion
  have release : left.build.release = right.build.release :=
    (ReleaseChoice.mk.injEq ..).mpr ⟨stream, version⟩
  have build : left.build = right.build :=
    (BuildPlan.mk.injEq ..).mpr ⟨promotion .promotes, promotion .inRelease, promotion .needsBase,
      promotion .needsOs, text .goVersion, text .importPath, text .buildCommands,
      text .testBuildCommands, leftNone.baseImages.trans rightNone.baseImages.symm,
      bundle_eq_of_textAt?_eq leftNone rightNone same, release⟩
  exact (Answers.mk.injEq ..).mpr ⟨identity .org, identity .repo, identity .branch, build,
    leftNone.tests.trans rightNone.tests.symm⟩

end Answers

/-! ## Assignments as they are written -/

/-- A path holds neither white space nor an equals sign. -/
theorem FieldPath.text_chars (field : FieldPath) :
    field.text.toList ≠ [] ∧ ∀ c ∈ field.text.toList, Text.isWhite c = false ∧ c ≠ '=' := by
  have ofAll : ∀ field ∈ all, field.text.toList ≠ [] ∧
      field.text.toList.all (fun c => !Text.isWhite c && c != '=') = true := by decide +kernel
  obtain ⟨present, chars⟩ := ofAll field field.mem_all
  refine ⟨present, fun c member => ?_⟩
  simpa using List.all_eq_true.mp chars c member

namespace Assignment

/-- A text that is assigned to a field, with white space around the path. -/
def written (before after : String) (field : FieldPath) (text : String) : String :=
  before ++ field.text ++ after ++ "=" ++ text

/-- A text is split at the equals sign if there is none in front of it. -/
theorem split_append {left : List Char} (absent : '=' ∉ left) (right : List Char) :
    split (left ++ '=' :: right) = (left, some right) := by
  induction left with
  | nil => rfl
  | cons c left ih =>
      rw [List.mem_cons, not_or] at absent
      rw [List.cons_append, split, ih absent.2]
      exact fun isEquals => absent.1 isEquals.symm

theorem equals_not_mem_of_isBlank {text : String} (blank : Text.isBlank text = true) :
    '=' ∉ text.toList := by
  intro member
  have white := List.all_eq_true.mp blank '=' member
  exact absurd white (by decide)

section

variable {before after : String} (blankBefore : Text.isBlank before = true)
  (blankAfter : Text.isBlank after = true) (field : FieldPath)

include blankBefore blankAfter

/-- White space around a path does not count, and the text is taken as it is. -/
theorem ofText?_written (text : String) :
    ofText? (written before after field text) = some ⟨field.text, some text⟩ := by
  have isWritten : (written before after field text).toList =
      (before.toList ++ field.text.toList ++ after.toList) ++ '=' :: text.toList := by
    simp only [written, String.toList_append, List.append_assoc]
    rfl
  obtain ⟨present, pathChars⟩ := field.text_chars
  have absent : '=' ∉ before.toList ++ field.text.toList ++ after.toList := by
    simp only [List.mem_append, not_or]
    exact ⟨⟨equals_not_mem_of_isBlank blankBefore, fun member => (pathChars _ member).2 rfl⟩,
      equals_not_mem_of_isBlank blankAfter⟩
  have isPath : Text.trim (String.ofList
      (before.toList ++ field.text.toList ++ after.toList)) = field.text := by
    rw [Text.trim, String.toList_ofList, Text.trimChars_padded _ (List.all_eq_true.mp blankBefore)
      (List.all_eq_true.mp blankAfter), Text.trimChars_of_not_white fun c member =>
        (pathChars c member).1, String.ofList_toList]
  have isFilled : field.text.isEmpty = false := by
    rw [Bool.eq_false_iff, ne_eq, String.isEmpty_iff, ← String.toList_eq_nil_iff]
    exact present
  unfold ofText?
  rw [isWritten, split_append absent]
  simp only [isPath, isFilled, Bool.false_eq_true, ↓reduceIte, Option.map_some,
    String.ofList_toList]

/-- A text that is assigned to a field, in whatever spelling, is the edit of it. -/
theorem apply_written {answers changed : Answers} {text : String} {edit : Edit}
    (isEdit : field.edit? text = some edit) (applied : edit.apply answers = .ok changed) :
    apply answers (written before after field text) = .ok changed := by
  have isField : FieldPath.ofText? field.text = some field :=
    FieldPath.ofText?_eq_some_iff.mpr rfl
  rw [apply_eq, ofText?_written blankBefore blankAfter]
  simp only [Edit.ofAssignment, Edit.ofText, isField, isEdit, Except.map, applied, Except.mapError]

end

end Assignment

/-- The assignments of the texts that answers show for the fields of a list. -/
def Answers.assignments (answers : Answers) (before after : FieldPath → String)
    (order : List FieldPath) : List String :=
  order.filterMap fun field =>
    (answers.textAt? field).map (Assignment.written (before field) (after field) field)

/-- Whether a bundle is built is told by its flag. -/
theorem Answers.isSome_textAt?_bundleBuilt (answers : Answers) :
    (answers.textAt? .bundleBuilt).isSome = answers.build.bundle.isSome :=
  Option.isSome_map

/-- If a field takes over the text of answers whose bundle is built, a bundle that was built or
would be built later on is still so. -/
theorem Answers.built_of_taken_over {target answers next : Answers} {field : FieldPath}
    {rest : List FieldPath} (targetBuilt : target.build.bundle.isSome = true)
    (updated : next.textAt? = Function.update answers.textAt? field
      ((target.textAt? field).or (answers.textAt? field)))
    (built : .bundleBuilt ∈ field :: rest ∨ answers.build.bundle.isSome = true) :
    .bundleBuilt ∈ rest ∨ next.build.bundle.isSome = true := by
  simp only [← isSome_textAt?_bundleBuilt] at targetBuilt built ⊢
  rw [updated, Function.update_apply]
  rcases built with member | already
  · rcases List.mem_cons.mp member with rfl | later
    · rw [if_pos rfl, Option.isSome_or, targetBuilt]
      exact .inr rfl
    · exact .inl later
  · refine .inr ?_
    split
    · rename_i isField
      subst isField
      rw [Option.isSome_or, already, Bool.or_true]
    · exact already

namespace Assignment

section

variable (target : Answers) {before after : FieldPath → String}
  (blankBefore : ∀ field, Text.isBlank (before field) = true)
  (blankAfter : ∀ field, Text.isBlank (after field) = true)

include blankBefore blankAfter

/-- One field's assignment, if it has one, is applied, and the others follow. -/
theorem exists_applyAll_cons {answers : Answers} (none : answers.HasNoEntries) (field : FieldPath)
    (rest : List FieldPath) (built : field.isInBundle = true → target.build.bundle.isSome = true →
      answers.build.bundle.isSome = true) :
    ∃ next : Answers, next.HasNoEntries ∧
      next.textAt? = Function.update answers.textAt? field
        ((target.textAt? field).or (answers.textAt? field)) ∧
      applyAll answers (target.assignments before after (field :: rest)) =
        applyAll next (target.assignments before after rest) := by
  unfold Answers.assignments
  rw [List.filterMap_cons]
  cases shown : target.textAt? field with
  | none => exact ⟨answers, none, (Function.update_eq_self _ _).symm, rfl⟩
  | some text =>
      have isBuilt : field.isInBundle = true → answers.build.bundle.isSome = true := by
        intro inBundle
        refine built inBundle (Option.isSome_iff_ne_none.mpr fun absent => ?_)
        cases field with
        | bundleText _ | upgrade =>
            rw [Answers.textAt?, absent] at shown
            cases shown
        | _ => cases inBundle
      obtain ⟨edit, next, isEdit, applied, updated⟩ := FieldPath.exists_apply shown isBuilt
      refine ⟨next, none.apply (FieldPath.isOfList_of_edit? isEdit) applied, updated, ?_⟩
      rw [Option.map_some]
      change applyAll answers (written (before field) (after field) field text :: _) = _
      exact applyAll_of_ok
        (apply_written (blankBefore field) (blankAfter field) field isEdit applied) _

/-- The assignments of some answers are applied to others without a refusal. The fields of the
list then have the texts of the first answers, so far as these have a text there, and the other
fields have the texts that they had. -/
theorem exists_applyAll {answers : Answers} (none : answers.HasNoEntries) {order : List FieldPath}
    (bundleFirst : order.Pairwise fun first second =>
      second = .bundleBuilt → first.isInBundle = false)
    (built : target.build.bundle.isSome = true →
      .bundleBuilt ∈ order ∨ answers.build.bundle.isSome = true) :
    ∃ made : Answers, applyAll answers (target.assignments before after order) = (made, .none) ∧
      made.HasNoEntries ∧ ∀ field, made.textAt? field =
        if field ∈ order then (target.textAt? field).or (answers.textAt? field)
        else answers.textAt? field := by
  induction order generalizing answers with
  | nil => exact ⟨answers, rfl, none, fun field => rfl⟩
  | cons field rest ih =>
      obtain ⟨fieldFirst, restOrdered⟩ := List.pairwise_cons.mp bundleFirst
      have isBuilt : field.isInBundle = true → target.build.bundle.isSome = true →
          answers.build.bundle.isSome = true := by
        intro inBundle targetBuilt
        refine (built targetBuilt).resolve_left fun member => ?_
        rcases List.mem_cons.mp member with rfl | later
        · cases inBundle
        · exact Bool.false_ne_true ((fieldFirst _ later rfl).symm.trans inBundle)
      obtain ⟨next, nextNone, updated, applied⟩ :=
        exists_applyAll_cons target blankBefore blankAfter none field rest isBuilt
      have nextBuilt : target.build.bundle.isSome = true →
          .bundleBuilt ∈ rest ∨ next.build.bundle.isSome = true := fun targetBuilt =>
        Answers.built_of_taken_over targetBuilt updated (built targetBuilt)
      obtain ⟨made, isMade, madeNone, texts⟩ := ih nextNone restOrdered nextBuilt
      refine ⟨made, applied.trans isMade, madeNone, fun other => ?_⟩
      rw [texts, updated]
      by_cases same : other = field
      · subst same
        rw [Function.update_self, if_pos List.mem_cons_self, ← Option.or_assoc, Option.or_self,
          ite_self]
      · rw [Function.update_of_ne same]
        simp only [List.mem_cons, same, false_or]

end

end Assignment

/-- Answers without entries in their lists are made out of blank ones by the assignments of all
texts that they show, whatever these texts are. The order of the assignments is free, save that
the bundle is built before its fields are assigned; and so is white space around the paths. -/
theorem assignments_make_answers (answers : Answers) (none : answers.HasNoEntries)
    (order : List FieldPath) (complete : ∀ field, field ∈ order)
    (bundleFirst : order.Pairwise fun first second =>
      second = .bundleBuilt → first.isInBundle = false)
    (before after : FieldPath → String)
    (blankBefore : ∀ field, Text.isBlank (before field) = true)
    (blankAfter : ∀ field, Text.isBlank (after field) = true) :
    Assignment.applyAll .blank (answers.assignments before after order) = (answers, .none) := by
  have blankNone : Answers.blank.HasNoEntries := ⟨rfl, rfl, rfl⟩
  obtain ⟨made, isMade, madeNone, texts⟩ := Assignment.exists_applyAll answers blankBefore
    blankAfter blankNone bundleFirst fun _ => .inl (complete .bundleBuilt)
  have same : made = answers := by
    refine Answers.eq_of_textAt?_eq madeNone none (funext fun field => ?_)
    rw [texts, if_pos (complete field)]
    cases shown : answers.textAt? field with
    | none => exact Answers.textAt?_blank_of_none shown
    | some text => rfl
  rw [isMade, same]

/-- Texts may be empty, have white space around them and hold an equals sign. -/
theorem assignments_make_sample :
    let answers : Answers := { Answers.blank with
      org := " a=b "
      build := { BuildPlan.blank with
        needsOs := true
        goVersion := some ""
        bundle := some { BundlePlan.blank with name := some "=", upgrade := some .skipPatch }
        release := ⟨.nightly, some "4.14"⟩ } }
    let raws := answers.assignments (fun _ => " ") (fun _ => "\t") FieldPath.all
    raws.head? = some " org\t= a=b " ∧ answers.HasNoEntries ∧
      Assignment.applyAll .blank raws = (answers, .none) := by
  intro answers raws
  have none : answers.HasNoEntries := ⟨rfl, rfl, rfl⟩
  have isBlank : Text.isBlank " " = true ∧ Text.isBlank "\t" = true := by decide
  refine ⟨by decide +kernel, none, ?_⟩
  exact assignments_make_answers answers none FieldPath.all FieldPath.mem_all (by decide) _ _
    (fun _ => isBlank.1) (fun _ => isBlank.2)

end Onboarding
