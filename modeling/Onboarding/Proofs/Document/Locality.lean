import Onboarding.Document.OfAnswers
import Onboarding.Proofs.Edit.Lists

/-! # What an edit changes in a document

An edit is made to the answers, and shows in the parts of the document that are made from what it
changes. For most edits that is a single part. The first promotion flag shows in all four, since the
others count only when images are promoted. An edit of the tests shows in the jobs of the kinds of
tests that it takes out or puts in. All other parts stay as they are
(`Onboarding.Edit.apply_agreeOff`).

A flag below the first is kept while nothing is promoted and shows once images are promoted again
(`Onboarding.Document.ofAnswers_foldl_withNested`).
-/

namespace Onboarding

/-- The parts of a document. -/
inductive DocumentPart where
  | org
  | repo
  | branch
  | importPath
  | promotes
  | inRelease
  | needsBase
  | needsOs
  | goVersion
  | baseImages
  | buildCommands
  | testBuildCommands
  | unitJobs
  | customJobs
  | bundle
  | release
  | releaseVersion
  deriving DecidableEq, Repr

namespace Document

/-- Two documents agree in a part. -/
def SameIn (left right : Document) : DocumentPart → Prop
  | .org => left.org = right.org
  | .repo => left.repo = right.repo
  | .branch => left.branch = right.branch
  | .importPath => left.importPath = right.importPath
  | .promotes => left.promotes = right.promotes
  | .inRelease => left.inRelease = right.inRelease
  | .needsBase => left.needsBase = right.needsBase
  | .needsOs => left.needsOs = right.needsOs
  | .goVersion => left.goVersion = right.goVersion
  | .baseImages => left.baseImages = right.baseImages
  | .buildCommands => left.buildCommands = right.buildCommands
  | .testBuildCommands => left.testBuildCommands = right.testBuildCommands
  | .unitJobs => left.unitJobs = right.unitJobs
  | .customJobs => left.customJobs = right.customJobs
  | .bundle => left.bundle = right.bundle
  | .release => left.release = right.release
  | .releaseVersion => left.releaseVersion = right.releaseVersion

/-- Two documents agree in every part but those of a list. -/
def AgreeOff (parts : List DocumentPart) (left right : Document) : Prop :=
  ∀ part, part ∉ parts → left.SameIn right part

end Document

/-- Where an identifying field shows. -/
def IdentityField.part : IdentityField → DocumentPart
  | org => .org
  | repo => .repo
  | branch => .branch

/-- Where a flag shows. All flags are off in the document when the first one is. -/
def PromotionFlag.parts : PromotionFlag → List DocumentPart
  | promotes => [.promotes, .inRelease, .needsBase, .needsOs]
  | inRelease => [.inRelease]
  | needsBase => [.needsBase]
  | needsOs => [.needsOs]

/-- Where a text of the build parameters shows. -/
def BuildText.part : BuildText → DocumentPart
  | goVersion => .goVersion
  | importPath => .importPath
  | buildCommands => .buildCommands
  | testBuildCommands => .testBuildCommands

/-- Where the job of a test is. -/
def TestPlan.part (test : TestPlan) : DocumentPart :=
  match test.kind with
  | .unit => .unitJobs
  | .endToEnd | .operator => .customJobs

/-- The parts of a document in which an edit of its answers may show. -/
def Edit.parts (answers : Answers) : Edit → List DocumentPart
  | identity field _ => [field.part]
  | promotion flag _ => flag.parts
  | buildText field _ => [field.part]
  | addImage _ | removeImage _ => [.baseImages]
  | enableBundle | disableBundle | bundleText _ _ | upgrade _ => [.bundle]
  | addSubstitution _ | removeSubstitution _ => [.bundle]
  | addTest test => [test.part]
  | replaceTest index test => answers.tests[index]?.toList.map (·.part) ++ [test.part]
  | removeTest index => answers.tests[index]?.toList.map (·.part)
  | releaseStream _ => [.release]
  | releaseVersion _ => [.releaseVersion]

/-- A test shows among the unit jobs or has none there. -/
theorem UnitJob.ofTest?_eq_none_iff {test : TestPlan} :
    ofTest? test = none ↔ test.part ≠ .unitJobs := by
  unfold ofTest? TestPlan.part
  cases test.kind <;> simp

/-- A test shows among the other jobs or has none there. -/
theorem CustomJob.ofTest?_eq_none_iff {test : TestPlan} :
    ofTest? test = none ↔ test.part ≠ .customJobs := by
  unfold ofTest? TestPlan.part
  cases test.kind <;> simp

namespace Answers

/-- The answers with another bundle, or with none. -/
def withBundle (answers : Answers) (bundle : Option BundlePlan) : Answers :=
  { answers with build := { answers.build with bundle } }

/-- The answers with a flag set or cleared. -/
def withPromotion (answers : Answers) (flag : PromotionFlag) (value : Bool) : Answers :=
  { answers with build := answers.build.withPromotion flag value }

/-- Edits of the bundle change nothing else in the answers. -/
theorem eq_withBundle_of_onBundle {answers after : Answers}
    {change : InPlace EditError BundlePlan Unit}
    (applied : (onBundle (BundlePlan.built change)).apply answers = .ok after) :
    ∃ bundle, after = answers.withBundle bundle := by
  obtain ⟨_, _, changed, _, rfl⟩ := onBuiltBundle_eq_ok_iff.mp applied
  exact ⟨some changed, rfl⟩

end Answers

namespace Document

section Changes

variable (answers : Answers)

/-- An identifying field shows in its part only. -/
theorem agreeOff_withIdentity (field : IdentityField) (text : String) :
    AgreeOff [field.part] (ofAnswers answers) (ofAnswers (answers.withIdentity field text)) := by
  intro part other
  -- a part is not made from the field, or it is the one that may differ
  cases field <;> cases part <;> first | exact rfl | exact absurd (.head _) other

/-- A flag shows in its parts only. -/
theorem agreeOff_withPromotion (flag : PromotionFlag) (value : Bool) :
    AgreeOff flag.parts (ofAnswers answers) (ofAnswers (answers.withPromotion flag value)) := by
  intro part other
  cases flag <;> cases part <;> first | exact rfl | exact absurd (by decide) other

theorem agreeOff_withText (field : BuildText) (text : String) :
    AgreeOff [field.part] (ofAnswers answers)
      (ofAnswers { answers with build := answers.build.withText field text }) := by
  intro part other
  cases field <;> cases part <;> first | exact rfl | exact absurd (.head _) other

theorem agreeOff_withImages (images : List ImageTag) :
    AgreeOff [.baseImages] (ofAnswers answers) (ofAnswers (answers.withImages images)) := by
  intro part other
  cases part with
  | baseImages => exact absurd (.head _) other
  | _ => exact rfl

/-- The bundle shows in its section only. -/
theorem agreeOff_withBundle (bundle : Option BundlePlan) :
    AgreeOff [.bundle] (ofAnswers answers) (ofAnswers (answers.withBundle bundle)) := by
  intro part other
  cases part with
  | bundle => exact absurd (.head _) other
  | _ => exact rfl

end Changes

/-- Where some tests among others are put in the place of some, the document can differ only in
the parts of these two. -/
theorem agreeOff_withTests {answers : Answers} {tests front taken put back : List TestPlan}
    (before : answers.tests = front ++ taken ++ back) (afterwards : tests = front ++ put ++ back) :
    AgreeOff (taken.map (·.part) ++ put.map (·.part)) (ofAnswers answers)
      (ofAnswers (answers.withTests tests)) := by
  intro part other
  rw [← List.map_append] at other
  have elsewhere (test : TestPlan) (member : test ∈ taken ++ put) : test.part ≠ part :=
    fun isPart => other (List.mem_map.mpr ⟨test, member, isPart⟩)
  -- tests that have no job of a kind are not seen among the jobs of that kind
  have jobs {β : Type} {ofTest? : TestPlan → Option β}
      (noJob : ∀ test ∈ taken ++ put, ofTest? test = none) :
      answers.tests.filterMap ofTest? = tests.filterMap ofTest? := by
    have noneTaken : taken.filterMap ofTest? = [] := List.filterMap_eq_nil_iff.mpr
      fun test member => noJob test (List.mem_append_left _ member)
    have nonePut : put.filterMap ofTest? = [] := List.filterMap_eq_nil_iff.mpr
      fun test member => noJob test (List.mem_append_right _ member)
    simp only [before, afterwards, List.filterMap_append, noneTaken, nonePut]
  cases part with
  | unitJobs =>
      exact jobs fun test member => UnitJob.ofTest?_eq_none_iff.mpr (elsewhere test member)
  | customJobs =>
      exact jobs fun test member => CustomJob.ofTest?_eq_none_iff.mpr (elsewhere test member)
  | _ => exact rfl

section Tests

variable (answers : Answers) {index : Nat} (test : TestPlan)

/-- A test that is added shows among the jobs of its kind only. -/
theorem agreeOff_append :
    AgreeOff [test.part] (ofAnswers answers)
      (ofAnswers (answers.withTests (answers.tests ++ [test]))) := by
  have before : answers.tests = answers.tests ++ [] ++ [] := by simp
  have afterwards : answers.tests ++ [test] = answers.tests ++ [test] ++ [] := by simp
  exact agreeOff_withTests before afterwards

/-- A test that takes the place of another shows there, and where the other did. -/
theorem agreeOff_set (inside : index < answers.tests.length) :
    AgreeOff [answers.tests[index].part, test.part] (ofAnswers answers)
      (ofAnswers (answers.withTests (answers.tests.set index test))) := by
  have before : answers.tests = answers.tests.take index ++ [answers.tests[index]] ++
      answers.tests.drop (index + 1) := by simp
  have afterwards : answers.tests.set index test = answers.tests.take index ++ [test] ++
      answers.tests.drop (index + 1) := by
    rw [List.set_eq_take_append_cons_drop, if_pos inside, List.append_cons]
  exact agreeOff_withTests before afterwards

/-- A test that is removed showed among the jobs of its kind only. -/
theorem agreeOff_eraseIdx (inside : index < answers.tests.length) :
    AgreeOff [answers.tests[index].part] (ofAnswers answers)
      (ofAnswers (answers.withTests (answers.tests.eraseIdx index))) := by
  have before : answers.tests = answers.tests.take index ++ [answers.tests[index]] ++
      answers.tests.drop (index + 1) := by simp
  have afterwards : answers.tests.eraseIdx index = answers.tests.take index ++ [] ++
      answers.tests.drop (index + 1) := by
    rw [List.eraseIdx_eq_take_drop_succ, List.append_nil]
  exact agreeOff_withTests before afterwards

end Tests

end Document

/-- An accepted edit shows in its own parts of the document only. -/
theorem Edit.apply_agreeOff {answers after : Answers} {edit : Edit}
    (applied : edit.apply answers = .ok after) :
    Document.AgreeOff (edit.parts answers) (.ofAnswers answers) (.ofAnswers after) := by
  have ofBundle {change : InPlace EditError BundlePlan Unit}
      (changed : (Answers.onBundle (BundlePlan.built change)).apply answers = .ok after) :
      Document.AgreeOff [.bundle] (.ofAnswers answers) (.ofAnswers after) := by
    obtain ⟨bundle, rfl⟩ := Answers.eq_withBundle_of_onBundle changed
    exact Document.agreeOff_withBundle answers bundle
  cases edit with
  | identity field text =>
      cases applied
      exact Document.agreeOff_withIdentity answers field text
  | promotion flag value =>
      cases applied
      exact Document.agreeOff_withPromotion answers flag value
  | buildText field text =>
      cases applied
      exact Document.agreeOff_withText answers field text
  | addImage image =>
      obtain ⟨_, _, rfl⟩ := apply_addImage_iff.mp applied
      exact Document.agreeOff_withImages answers _
  | removeImage index =>
      obtain ⟨_, rfl⟩ := apply_removeImage_iff.mp applied
      exact Document.agreeOff_withImages answers _
  | enableBundle =>
      cases applied
      exact Document.agreeOff_withBundle answers _
  | disableBundle =>
      cases applied
      exact Document.agreeOff_withBundle answers none
  | bundleText field text => exact ofBundle applied
  | upgrade strategy => exact ofBundle applied
  | addSubstitution substitution => exact ofBundle applied
  | removeSubstitution index => exact ofBundle applied
  | addTest test =>
      obtain ⟨_, _, rfl⟩ := apply_addTest_iff.mp applied
      exact Document.agreeOff_append answers test
  | replaceTest index test =>
      obtain ⟨inside, _, _, rfl⟩ := apply_replaceTest_iff.mp applied
      rw [parts, List.getElem?_eq_getElem inside]
      exact Document.agreeOff_set answers test inside
  | removeTest index =>
      obtain ⟨inside, rfl⟩ := apply_removeTest_iff.mp applied
      rw [parts, List.getElem?_eq_getElem inside]
      exact Document.agreeOff_eraseIdx answers inside
  | releaseStream stream =>
      cases applied
      intro part other
      cases part with
      | release => exact absurd (.head _) other
      | _ => exact rfl
  | releaseVersion text =>
      cases applied
      intro part other
      cases part with
      | releaseVersion => exact absurd (.head _) other
      | _ => exact rfl

/-! ## Flags that count only when images are promoted -/

/-- The promotion flags below the first. -/
inductive NestedFlag where
  | inRelease
  | needsBase
  | needsOs
  deriving DecidableEq, Repr

/-- The flag that a nested one is. -/
def NestedFlag.flag : NestedFlag → PromotionFlag
  | inRelease => .inRelease
  | needsBase => .needsBase
  | needsOs => .needsOs

/-- A value for a flag below the first. -/
structure NestedSetting where
  flag : NestedFlag
  value : Bool
  deriving DecidableEq, Repr

/-- The edit that makes a setting. -/
def NestedSetting.edit (setting : NestedSetting) : Edit :=
  .promotion setting.flag.flag setting.value

/-- Promotion is switched off for some edits and on again after them. -/
def Edit.whileUnpromoted (edits : List Edit) : List Edit :=
  .promotion .promotes false :: edits ++ [.promotion .promotes true]

/-- The answers after a setting is made. -/
def Answers.withNested (answers : Answers) (setting : NestedSetting) : Answers :=
  answers.withPromotion setting.flag.flag setting.value

/-- The document with the flag of a setting at its value. -/
def Document.withNested (document : Document) (setting : NestedSetting) : Document :=
  match setting.flag with
  | .inRelease => { document with inRelease := setting.value }
  | .needsBase => { document with needsBase := setting.value }
  | .needsOs => { document with needsOs := setting.value }

namespace Answers

variable (answers : Answers)

/-- Settings are never refused. -/
theorem foldlM_apply_nested (settings : List NestedSetting) :
    (settings.map (·.edit)).foldlM Edit.apply answers =
      .ok (settings.foldl withNested answers) := by
  rw [List.foldlM_map]
  exact List.foldlM_pure

/-- Nested flags do not promote. -/
theorem promotes_withNested (setting : NestedSetting) :
    (answers.withNested setting).build.promotes = answers.build.promotes := by
  obtain ⟨flag, value⟩ := setting
  cases flag <;> rfl

/-- A setting and the first flag can be changed in either order. -/
theorem withNested_withPromotion (promotes : Bool) (setting : NestedSetting) :
    (answers.withPromotion .promotes promotes).withNested setting =
      (answers.withNested setting).withPromotion .promotes promotes := by
  obtain ⟨flag, value⟩ := setting
  cases flag <;> rfl

variable {answers}

/-- Promotion that is switched off and on again leaves the answers as they were. -/
theorem withPromotion_false_true (promotes : answers.build.promotes = true) :
    (answers.withPromotion .promotes false).withPromotion .promotes true = answers := by
  unfold withPromotion BuildPlan.withPromotion
  rw [← promotes]

/-- Settings that are made while promotion is switched off are those that are there once it is on
again, and there is nothing else that has changed. -/
theorem foldlM_apply_switched (promotes : answers.build.promotes = true)
    (settings : List NestedSetting) :
    (Edit.whileUnpromoted (settings.map (·.edit))).foldlM Edit.apply answers =
      .ok (settings.foldl withNested answers) := by
  calc (Edit.whileUnpromoted (settings.map (·.edit))).foldlM Edit.apply answers
    _ = (settings.map (·.edit)).foldlM Edit.apply (answers.withPromotion .promotes false) >>=
          fun before => .ok (before.withPromotion .promotes true) := by
        rw [Edit.whileUnpromoted, List.foldlM_append]
        rfl
    _ = .ok ((settings.foldl withNested (answers.withPromotion .promotes false)).withPromotion
          .promotes true) := by
        rw [foldlM_apply_nested]
        rfl
    _ = .ok (settings.foldl withNested
          ((answers.withPromotion .promotes false).withPromotion .promotes true)) := by
        rw [← List.foldl_hom (·.withPromotion .promotes true)
          fun before setting => withNested_withPromotion before true setting]
    _ = .ok (settings.foldl withNested answers) := by rw [withPromotion_false_true promotes]

end Answers

namespace Document

variable {answers : Answers}

/-- A nested flag shows in the document exactly while promotion is on. -/
theorem ofAnswers_withNested (setting : NestedSetting) :
    ofAnswers (answers.withNested setting) =
      if answers.build.promotes = true then (ofAnswers answers).withNested setting
      else ofAnswers answers := by
  obtain ⟨flag, value⟩ := setting
  unfold Answers.withNested Answers.withPromotion ofAnswers withNested
  cases promotes : answers.build.promotes <;> cases flag <;>
    simp [NestedFlag.flag, BuildPlan.withPromotion, promotes]

/-- Settings show in the document of promoted images, each in the part of its flag, and are not seen
in that of others. -/
theorem ofAnswers_foldl_withNested (settings : List NestedSetting) :
    ofAnswers (settings.foldl Answers.withNested answers) =
      if answers.build.promotes = true then settings.foldl withNested (ofAnswers answers)
      else ofAnswers answers := by
  induction settings generalizing answers with
  | nil => exact (ite_self _).symm
  | cons setting rest ih =>
      rw [List.foldl_cons, List.foldl_cons, ih, Answers.promotes_withNested, ofAnswers_withNested]
      by_cases promotes : answers.build.promotes = true
      · rw [if_pos promotes, if_pos promotes, if_pos promotes]
      · rw [if_neg promotes, if_neg promotes, if_neg promotes]

/-- Edits are local. An accepted edit shows in its own parts of the document only. Settings of the
flags below the first are not seen while nothing is promoted, and when promotion is switched off and
on again the document is what it was, up to the settings made in between. -/
theorem edits_are_local (answers : Answers) :
    (∀ edit after, Edit.apply answers edit = .ok after →
      AgreeOff (edit.parts answers) (ofAnswers answers) (ofAnswers after)) ∧
    (answers.build.promotes = false → ∀ settings : List NestedSetting, ∃ after,
      (settings.map (·.edit)).foldlM Edit.apply answers = .ok after ∧
        ofAnswers after = ofAnswers answers) ∧
    (answers.build.promotes = true → ∀ settings : List NestedSetting, ∃ after,
      (Edit.whileUnpromoted (settings.map (·.edit))).foldlM Edit.apply answers = .ok after ∧
        ofAnswers after = settings.foldl withNested (ofAnswers answers)) := by
  refine ⟨fun edit after applied => Edit.apply_agreeOff applied, ?_, ?_⟩
  · intro unpromoted settings
    refine ⟨_, Answers.foldlM_apply_nested answers settings, ?_⟩
    rw [ofAnswers_foldl_withNested, unpromoted, if_neg Bool.false_ne_true]
  · intro promoted settings
    refine ⟨_, Answers.foldlM_apply_switched promoted settings, ?_⟩
    rw [ofAnswers_foldl_withNested, if_pos promoted]

/-- Unit jobs stay when a test of another kind is replaced. That a base image is needed is seen only
where images are promoted. -/
theorem edits_are_local_sample :
    let test (name : String) (kind : TestKind) : TestPlan :=
      { TestPlan.blank with name, kind, commands := some "make" }
    let build := { BuildPlan.blank with promotes := true, inRelease := true }
    let answers := { Answers.blank with build, tests := [test "unit" .unit, test "e2e" .endToEnd] }
    let needsBase : Edit := .promotion .needsBase true
    (∃ after, (Edit.replaceTest 1 (test "smoke" .operator)).apply answers = .ok after ∧
      (ofAnswers after).unitJobs = (ofAnswers answers).unitJobs ∧
      (ofAnswers after).customJobs ≠ (ofAnswers answers).customJobs) ∧
    (∃ after, [needsBase].foldlM Edit.apply Answers.blank = .ok after ∧
      ofAnswers after = ofAnswers Answers.blank) ∧
    (∃ after, (Edit.whileUnpromoted [needsBase]).foldlM Edit.apply answers = .ok after ∧
      ofAnswers after = { ofAnswers answers with needsBase := true }) := by
  intro test build answers needsBase
  refine ⟨?_, (edits_are_local Answers.blank).2.1 rfl [⟨.needsBase, true⟩],
    (edits_are_local answers).2.2 rfl [⟨.needsBase, true⟩]⟩
  have replaced : (Edit.replaceTest 1 (test "smoke" .operator)).apply answers =
      .ok (answers.withTests [test "unit" .unit, test "smoke" .operator]) :=
    Edit.apply_replaceTest_iff.mpr ⟨by decide, by decide, by decide, rfl⟩
  refine ⟨_, replaced, ?_, by decide⟩
  exact ((edits_are_local answers).1 _ _ replaced .unitJobs (by decide)).symm

end Document

end Onboarding
