import Mathlib.Data.List.Perm.Basic
import Onboarding.Proofs.Edit.Atomicity
import Onboarding.Proofs.Edit.Lists

/-! # Well-formed answers

Answers are well formed when every base image and every test is complete and the
entries of each list are distinct in the sense of that list: base images in all three
parts, substitutions in the pullspec, tests in the name, each ignoring case. What is
typed into a file need not be well formed, but edits keep well-formed answers so
(`Onboarding.Answers.WellFormed.apply`), and nothing but edits leads from blank answers to
others (`Onboarding.Answers.WellFormed.edited`).
-/

namespace Onboarding

/-- No two entries of a list are the same. -/
def Distinct {α : Type} (same : α → α → Bool) (entries : List α) : Prop :=
  entries.Pairwise fun left right => same left right = false

instance {α : Type} (same : α → α → Bool) (entries : List α) : Decidable (Distinct same entries) :=
  inferInstanceAs (Decidable (entries.Pairwise _))

namespace Distinct

variable {α : Type} {same : α → α → Bool} {entries : List α} {entry : α}

/-- One more entry leaves the entries distinct if it is like none of them. -/
theorem append (distinct : Distinct same entries)
    (fresh : ∀ existing ∈ entries, same existing entry = false) :
    Distinct same (entries ++ [entry]) := by
  refine List.pairwise_append.mpr ⟨distinct, List.pairwise_singleton _ _, ?_⟩
  intro existing member other isEntry
  exact List.mem_singleton.mp isEntry ▸ fresh existing member

/-- With an entry less, the entries stay distinct. -/
theorem eraseIdx (distinct : Distinct same entries) (index : Nat) :
    Distinct same (entries.eraseIdx index) :=
  List.Pairwise.eraseIdx index distinct

/-- An entry is put in the place of another if it differs from all the rest. -/
theorem set (symmetric : ∀ left right, same left right = same right left)
    (distinct : Distinct same entries) {index : Nat} (inside : index < entries.length)
    (fresh : ∀ existing ∈ entries.eraseIdx index, same existing entry = false) :
    Distinct same (entries.set index entry) := by
  have reordered := List.set_perm_cons_eraseIdx inside entry
  refine (reordered.pairwise_iff fun {left right} differ => ?_).mpr ?_
  · rw [symmetric]
    exact differ
  · refine List.pairwise_cons.mpr ⟨fun existing member => ?_, distinct.eraseIdx index⟩
    rw [symmetric]
    exact fresh existing member

end Distinct

theorem Text.sameIgnoringCase_comm (left right : String) :
    sameIgnoringCase left right = sameIgnoringCase right left := by
  unfold sameIgnoringCase
  exact Bool.beq_comm

theorem TestPlan.sameName_comm (left right : TestPlan) :
    left.sameName right = right.sameName left :=
  Text.sameIgnoringCase_comm left.name right.name

/-- A text is filled if it is there and not empty. -/
theorem Text.isFilled_iff {text : Option String} :
    isFilled text = true ↔ ∃ value, text = some value ∧ value ≠ "" := by
  cases text with
  | none => simp [isFilled]
  | some value => simp [isFilled]

/-- An image is complete if none of its three parts is empty. -/
theorem ImageTag.isComplete_iff {image : ImageTag} :
    image.isComplete = true ↔ image.name ≠ "" ∧ image.project ≠ "" ∧ image.tag ≠ "" := by
  simp [isComplete, and_assoc]

/-- A test is complete if its name is not blank and its commands are not empty; the
commands may be blank. -/
theorem TestPlan.isComplete_iff {test : TestPlan} :
    test.isComplete = true ↔
      Text.isBlank test.name = false ∧ ∃ text, test.commands = some text ∧ text ≠ "" := by
  simp [isComplete, Text.isFilled_iff]

namespace Answers

/-- Entries are complete where that is asked for, and distinct. -/
structure WellFormed (answers : Answers) : Prop where
  imagesComplete : ∀ image ∈ answers.build.baseImages, image.isComplete = true
  imagesDistinct : Distinct ImageTag.sameAs answers.build.baseImages
  substitutionsDistinct : Distinct Substitution.samePullspec answers.substitutions
  testsComplete : ∀ test ∈ answers.tests, test.isComplete = true
  testsDistinct : Distinct TestPlan.sameName answers.tests

instance (answers : Answers) : Decidable answers.WellFormed :=
  decidable_of_iff
    ((∀ image ∈ answers.build.baseImages, image.isComplete = true) ∧
      Distinct ImageTag.sameAs answers.build.baseImages ∧
      Distinct Substitution.samePullspec answers.substitutions ∧
      (∀ test ∈ answers.tests, test.isComplete = true) ∧
      Distinct TestPlan.sameName answers.tests)
    ⟨fun ⟨complete, images, substitutions, tests, names⟩ =>
      ⟨complete, images, substitutions, tests, names⟩,
      fun ⟨complete, images, substitutions, tests, names⟩ =>
        ⟨complete, images, substitutions, tests, names⟩⟩

namespace WellFormed

variable {answers after : Answers} (wellFormed : answers.WellFormed)

include wellFormed

/-- Other images leave answers well formed if they are complete and distinct. -/
theorem withImages {images : List ImageTag} (complete : ∀ image ∈ images, image.isComplete = true)
    (distinct : Distinct ImageTag.sameAs images) : (answers.withImages images).WellFormed :=
  { wellFormed with imagesComplete := complete, imagesDistinct := distinct }

/-- Other substitutions leave answers well formed if they are distinct. -/
theorem withSubstitutions {substitutions : List Substitution}
    (built : answers.build.bundle.isSome = true)
    (distinct : Distinct Substitution.samePullspec substitutions) :
    (answers.withSubstitutions substitutions).WellFormed :=
  { wellFormed with
    substitutionsDistinct := (substitutions_withSubstitutions built substitutions).symm ▸ distinct }

/-- Other tests leave answers well formed if they are complete and distinct. -/
theorem withTests {tests : List TestPlan} (complete : ∀ test ∈ tests, test.isComplete = true)
    (distinct : Distinct TestPlan.sameName tests) : (answers.withTests tests).WellFormed :=
  { wellFormed with testsComplete := complete, testsDistinct := distinct }

/-- An accepted edit keeps well-formed answers well formed. -/
theorem apply {edit : Edit} (applied : edit.apply answers = .ok after) : after.WellFormed := by
  cases scalar : edit.isOfList with
  | false =>
      obtain ⟨images, tests, substitutions⟩ := Edit.lists_of_scalar scalar applied
      refine ⟨?_, ?_, ?_, ?_, ?_⟩
      · exact images ▸ wellFormed.imagesComplete
      · exact images ▸ wellFormed.imagesDistinct
      · rcases substitutions with kept | discarded
        · exact kept ▸ wellFormed.substitutionsDistinct
        · exact discarded ▸ List.Pairwise.nil
      · exact tests ▸ wellFormed.testsComplete
      · exact tests ▸ wellFormed.testsDistinct
  | true =>
      cases edit with
      | addImage image =>
          obtain ⟨complete, fresh, rfl⟩ := Edit.apply_addImage_iff.mp applied
          refine wellFormed.withImages (fun existing member => ?_)
            (wellFormed.imagesDistinct.append fresh)
          rcases List.mem_append.mp member with old | new
          · exact wellFormed.imagesComplete existing old
          · exact List.mem_singleton.mp new ▸ complete
      | removeImage index =>
          obtain ⟨inside, rfl⟩ := Edit.apply_removeImage_iff.mp applied
          exact wellFormed.withImages
            (fun existing member =>
              wellFormed.imagesComplete existing (List.mem_of_mem_eraseIdx member))
            (wellFormed.imagesDistinct.eraseIdx index)
      | addSubstitution substitution =>
          obtain ⟨built, fresh, rfl⟩ := Edit.apply_addSubstitution_iff.mp applied
          exact wellFormed.withSubstitutions built (wellFormed.substitutionsDistinct.append fresh)
      | removeSubstitution index =>
          obtain ⟨built, inside, rfl⟩ := Edit.apply_removeSubstitution_iff.mp applied
          exact wellFormed.withSubstitutions built
            (wellFormed.substitutionsDistinct.eraseIdx index)
      | addTest test =>
          obtain ⟨complete, fresh, rfl⟩ := Edit.apply_addTest_iff.mp applied
          refine wellFormed.withTests (fun existing member => ?_)
            (wellFormed.testsDistinct.append fresh)
          rcases List.mem_append.mp member with old | new
          · exact wellFormed.testsComplete existing old
          · exact List.mem_singleton.mp new ▸ complete
      | replaceTest index test =>
          obtain ⟨inside, complete, fresh, rfl⟩ := Edit.apply_replaceTest_iff.mp applied
          refine wellFormed.withTests (fun existing member => ?_)
            (wellFormed.testsDistinct.set TestPlan.sameName_comm inside fresh)
          rcases List.mem_or_eq_of_mem_set member with old | new
          · exact wellFormed.testsComplete existing old
          · exact new ▸ complete
      | removeTest index =>
          obtain ⟨inside, rfl⟩ := Edit.apply_removeTest_iff.mp applied
          exact wellFormed.withTests
            (fun existing member =>
              wellFormed.testsComplete existing (List.mem_of_mem_eraseIdx member))
            (wellFormed.testsDistinct.eraseIdx index)
      | _ => cases scalar

end WellFormed

/-- The answers after several edits, of which those that are refused change nothing. -/
def edited (answers : Answers) : List Edit → Answers
  | [] => answers
  | edit :: rest => ((edit.apply answers).toOption.getD answers).edited rest

/-- The same answers are left behind where the edits are made in place, one after the other,
whether they are refused or not. -/
theorem edited_eq_foldl_leave (answers : Answers) (edits : List Edit) :
    answers.edited edits = edits.foldl (fun left edit => edit.change.leave left) answers := by
  induction edits generalizing answers with
  | nil => rfl
  | cons edit rest ih =>
      rw [edited, ih, List.foldl_cons, (Edit.isAtomic_change edit).leave_eq]
      rfl

theorem wellFormed_blank : blank.WellFormed := by decide

/-- Whatever the edits, well-formed answers stay so. -/
theorem WellFormed.edited {answers : Answers} (wellFormed : answers.WellFormed)
    (edits : List Edit) : (answers.edited edits).WellFormed := by
  induction edits generalizing answers with
  | nil => exact wellFormed
  | cons edit rest ih =>
      refine ih ?_
      cases result : edit.apply answers with
      | error _ => exact wellFormed
      | ok after => exact wellFormed.apply result

end Answers

end Onboarding
