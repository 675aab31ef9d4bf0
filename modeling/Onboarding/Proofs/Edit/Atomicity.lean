import Onboarding.Edit.Assignment
import Onboarding.Proofs.Edit.InPlace

/-! # Edits that are refused change nothing

Edits are made in place, so nothing but the order of its steps keeps an edit from leaving
something behind when it is refused. Every edit asks what it has to ask before it writes, and so
it leaves the answers as they were (`Onboarding.Edit.isAtomic_change`); and so does an override
that cannot be applied (`Onboarding.Assignment.isAtomic_change`). There is one lemma for each
group of edits, from the entries of a list up to the answers.
-/

namespace Onboarding

open InPlace

/-- An entry that is not there is not taken out of the list. -/
theorem isAtomic_removeEntry {α : Type} (index : Nat) :
    (removeEntry index : InPlace EditError (List α) Unit).IsAtomic :=
  observes_get.andThen fun _ => (observes_require _ _).andThen fun _ => isAtomic_set _

namespace BuildPlan

/-- A base image is looked at and looked up before it is added. -/
theorem isAtomic_addImage (image : ImageTag) : (addImage image).IsAtomic :=
  (observes_require _ _).andThen fun _ =>
    observes_get.andThen fun _ => (observes_require _ _).andThen fun _ => isAtomic_set _

/-- An image is removed in one step. -/
theorem isAtomic_removeImage (index : Nat) : (removeImage index).IsAtomic :=
  (isAtomic_removeEntry index).part fun _ => rfl

/-- What is done to the bundle of a build plan leaves as much behind as is left of the bundle. -/
theorem isAtomic_onBundle {change : InPlace EditError (Option BundlePlan) Unit}
    (atomic : change.IsAtomic) : (onBundle change).IsAtomic :=
  atomic.part fun _ => rfl

/-- A change of the release is as atomic as it is on the release alone. -/
theorem isAtomic_onRelease {change : InPlace EditError ReleaseChoice Unit}
    (atomic : change.IsAtomic) : (onRelease change).IsAtomic :=
  atomic.part fun _ => rfl

end BuildPlan

namespace BundlePlan

/-- Without a bundle there is nothing that a refused change could have changed. -/
theorem isAtomic_built {change : InPlace EditError BundlePlan Unit} (atomic : change.IsAtomic) :
    (built change).IsAtomic :=
  atomic.present _

/-- A pullspec is looked up before its substitution is added. -/
theorem isAtomic_addSubstitution (substitution : Substitution) :
    (addSubstitution substitution).IsAtomic :=
  observes_get.andThen fun _ => (observes_require _ _).andThen fun _ => isAtomic_set _

/-- A substitution is removed in one step. -/
theorem isAtomic_removeSubstitution (index : Nat) : (removeSubstitution index).IsAtomic :=
  (isAtomic_removeEntry index).part fun _ => rfl

end BundlePlan

namespace TestPlan

/-- A test is admitted before it is added. -/
theorem isAtomic_add (test : TestPlan) : (add test).IsAtomic :=
  observes_get.andThen fun _ => (observes_ofExcept _).andThen fun _ => isAtomic_set _

/-- The slot is looked at, and the test admitted, before it takes its place. -/
theorem isAtomic_replace (index : Nat) (test : TestPlan) : (replace index test).IsAtomic :=
  observes_get.andThen fun _ =>
    (observes_require _ _).andThen fun _ =>
      (observes_ofExcept _).andThen fun _ => isAtomic_set _

end TestPlan

namespace Answers

/-- A change of the build parameters is as atomic as it is on these alone. -/
theorem isAtomic_onBuild {change : InPlace EditError BuildPlan Unit} (atomic : change.IsAtomic) :
    (onBuild change).IsAtomic :=
  atomic.part fun _ => rfl

theorem isAtomic_onBundle {change : InPlace EditError (Option BundlePlan) Unit}
    (atomic : change.IsAtomic) : (onBundle change).IsAtomic :=
  isAtomic_onBuild (BuildPlan.isAtomic_onBundle atomic)

theorem isAtomic_onTests {change : InPlace EditError (List TestPlan) Unit}
    (atomic : change.IsAtomic) : (onTests change).IsAtomic :=
  atomic.part fun _ => rfl

end Answers

namespace Edit

/-- An edit that is refused leaves the answers as they were. -/
theorem isAtomic_change (edit : Edit) : edit.change.IsAtomic := by
  cases edit with
  | identity field text => exact isAtomic_modify _
  | promotion _ _ | buildText _ _ => exact Answers.isAtomic_onBuild (isAtomic_modify _)
  | addImage image => exact Answers.isAtomic_onBuild (BuildPlan.isAtomic_addImage image)
  | removeImage index => exact Answers.isAtomic_onBuild (BuildPlan.isAtomic_removeImage index)
  | enableBundle => exact Answers.isAtomic_onBundle (isAtomic_modify _)
  | disableBundle => exact Answers.isAtomic_onBundle (isAtomic_set _)
  | bundleText _ _ | upgrade _ =>
      exact Answers.isAtomic_onBundle (BundlePlan.isAtomic_built (isAtomic_modify _))
  | addSubstitution substitution =>
      exact Answers.isAtomic_onBundle
        (BundlePlan.isAtomic_built (BundlePlan.isAtomic_addSubstitution substitution))
  | removeSubstitution index =>
      exact Answers.isAtomic_onBundle
        (BundlePlan.isAtomic_built (BundlePlan.isAtomic_removeSubstitution index))
  | addTest test => exact Answers.isAtomic_onTests (TestPlan.isAtomic_add test)
  | replaceTest index test => exact Answers.isAtomic_onTests (TestPlan.isAtomic_replace index test)
  | removeTest index => exact Answers.isAtomic_onTests (isAtomic_removeEntry index)
  | releaseStream _ | releaseVersion _ =>
      exact Answers.isAtomic_onBuild (BuildPlan.isAtomic_onRelease (isAtomic_modify _))

end Edit

namespace Assignment

variable {answers after : Answers} {raw : String} {error : AssignmentError}

/-- An override that cannot be applied leaves the answers as they were. -/
theorem isAtomic_change (raw : String) : (change raw).IsAtomic := by
  rw [change]
  cases ofText? raw with
  | none => exact (observes_throw _).isAtomic
  | some assignment =>
      cases understood : Edit.ofAssignment assignment.path assignment.value with
      | error cause =>
          simp only [understood]
          exact (observes_throw _).isAtomic
      | ok meant =>
          simp only [understood]
          cases meant with
          | none => exact (observes_pure _).isAtomic
          | some edit => exact (Edit.isAtomic_change edit).adaptExcept _

/-- What comes of an override that is applied to a copy of the answers. -/
theorem apply_eq (answers : Answers) (raw : String) :
    apply answers raw =
      match ofText? raw with
      | none => .error (.noPath raw)
      | some ⟨path, value⟩ =>
        match Edit.ofAssignment path value with
        | .error cause => .error (.edit raw cause)
        | .ok none => .ok answers
        | .ok (some edit) => (edit.apply answers).mapError (.edit raw) := by
  rw [apply, change]
  cases ofText? raw with
  | none => rfl
  | some assignment =>
      cases understood : Edit.ofAssignment assignment.path assignment.value with
      | error cause =>
          simp only [understood]
          rfl
      | ok meant =>
          simp only [understood]
          cases meant with
          | none => rfl
          | some edit => exact apply_adaptExcept _ _ _

/-- An override that is applied is followed by the others. -/
theorem applyAll_of_ok (applied : apply answers raw = .ok after) (rest : List String) :
    applyAll answers (raw :: rest) = applyAll after rest := by
  rw [applyAll, apply_eq_ok_iff.mp applied]

/-- An override that cannot be applied is the last, and leaves the answers as those before it
have made them. -/
theorem applyAll_of_error (refused : apply answers raw = .error error) (rest : List String) :
    applyAll answers (raw :: rest) = (answers, some error) := by
  rw [applyAll, (isAtomic_change raw).apply_eq_error_iff.mp refused]

end Assignment

end Onboarding
