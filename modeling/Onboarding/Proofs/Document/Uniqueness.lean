import Onboarding.Document.OfAnswers
import Onboarding.Proofs.Answers.WellFormed

/-! # Names that are told apart in documents

Answers tell their tests apart by name and their substitutions by pullspec, ignoring case. A
document takes white space off pullspecs and off the names of tests that are no unit tests. So
two entries that the answers tell apart may come to have one name in the document, but only if
one of them has white space around the name that it has in the answers
(`Onboarding.Document.edited_names_distinct_iff`).
-/

namespace Onboarding

namespace TestPlan

/-- The name under which a test stands in documents. That of a unit test is left as it is. -/
def jobName (test : TestPlan) : String :=
  match test.kind with
  | .unit => test.name
  | .endToEnd | .operator => Text.trim test.name

/-- Around the name of a test is white space that documents take off. -/
def IsPadded (test : TestPlan) : Prop :=
  test.kind ≠ .unit ∧ Text.trim test.name ≠ test.name

/-- A name without white space around it is the name of the job as it is. -/
theorem jobName_of_not_isPadded {test : TestPlan} (bare : ¬test.IsPadded) :
    test.jobName = test.name := by
  unfold jobName
  cases kind : test.kind with
  | unit => rfl
  | endToEnd | operator =>
      refine Decidable.byContradiction fun differs => bare ⟨?_, differs⟩
      rw [kind]
      exact TestKind.noConfusion

end TestPlan

/-- Around a pullspec is white space, which documents take off. -/
def Substitution.IsPadded (substitution : Substitution) : Prop :=
  Text.trim substitution.pullspec ≠ substitution.pullspec

/-- Entries that are distinct may be compared in another way that agrees with the first on all
but some of them. Then only pairs with one of those remain to be compared. -/
theorem Distinct.pairwise_iff {α : Type} {same : α → α → Bool} {entries : List α}
    (distinct : Distinct same entries) {marked : α → Prop} {differ : α → α → Prop}
    (agrees : ∀ left right, ¬marked left → ¬marked right → same left right = false →
      differ left right) :
    entries.Pairwise differ ↔
      entries.Pairwise fun left right => marked left ∨ marked right → differ left right := by
  constructor
  · intro compared
    refine compared.imp ?_
    intro left right differs _
    exact differs
  · intro compared
    refine List.Pairwise.imp₂ (fun left right differs compare => ?_) distinct compared
    by_cases concerned : marked left ∨ marked right
    · exact compare concerned
    · rw [not_or] at concerned
      exact agrees left right concerned.1 concerned.2 differs

namespace Document

/-- The names of the jobs of a document, those of unit jobs first. -/
def jobNames (document : Document) : List String :=
  document.unitJobs.map (·.name) ++ document.customJobs.map (·.name)

/-- The pullspecs for which the bundle has substitutions. -/
def pullspecs (document : Document) : List String :=
  (document.bundle.elim [] (·.substitutions)).map (·.pullspec)

/-- Every test has one job, under its name for documents. -/
theorem jobNames_ofAnswers (answers : Answers) :
    (ofAnswers answers).jobNames.Perm (answers.tests.map TestPlan.jobName) := by
  unfold jobNames ofAnswers
  induction answers.tests with
  | nil => exact .nil
  | cons test rest ih =>
      cases kind : test.kind with
      | unit =>
          simpa [UnitJob.ofTest?, CustomJob.ofTest?, TestPlan.jobName, kind] using ih
      | endToEnd | operator =>
          simp only [List.filterMap_cons, UnitJob.ofTest?, CustomJob.ofTest?, kind, List.map_cons,
            TestPlan.jobName]
          exact List.perm_middle.trans (ih.cons _)

/-- A document has the pullspecs of the substitutions, trimmed. -/
theorem pullspecs_ofAnswers (answers : Answers) :
    (ofAnswers answers).pullspecs =
      answers.substitutions.map fun substitution => Text.trim substitution.pullspec := by
  have isBundle : (ofAnswers answers).bundle = answers.build.bundle.map BundleSection.ofPlan := rfl
  unfold pullspecs Answers.substitutions
  rw [isBundle]
  cases answers.build.bundle with
  | none => rfl
  | some plan => exact List.map_map

/-- Answers that come about by edits have different names for all jobs of their document, ignoring
case, exactly if no test with white space around its name is named there like another one; and
the same holds of pullspecs. Nothing is to be compared when there is no such white space. -/
theorem edited_names_distinct_iff (edits : List Edit) :
    let answers := Answers.blank.edited edits
    let document := ofAnswers answers
    (Distinct Text.sameIgnoringCase document.jobNames ↔
      answers.tests.Pairwise fun left right => left.IsPadded ∨ right.IsPadded →
        Text.sameIgnoringCase left.jobName right.jobName = false) ∧
    (Distinct Text.sameIgnoringCase document.pullspecs ↔
      answers.substitutions.Pairwise fun left right => left.IsPadded ∨ right.IsPadded →
        Text.sameIgnoringCase (Text.trim left.pullspec) (Text.trim right.pullspec) = false) := by
  intro answers document
  have wellFormed := Answers.wellFormed_blank.edited edits
  constructor
  · have reordered := (jobNames_ofAnswers answers).pairwise_iff
      (R := fun left right => Text.sameIgnoringCase left right = false)
      fun {left right} differ => Text.sameIgnoringCase_comm left right ▸ differ
    rw [Distinct, reordered, List.pairwise_map]
    refine wellFormed.testsDistinct.pairwise_iff fun left right bareLeft bareRight differ => ?_
    rw [TestPlan.jobName_of_not_isPadded bareLeft, TestPlan.jobName_of_not_isPadded bareRight]
    exact differ
  · rw [Distinct, pullspecs_ofAnswers, List.pairwise_map]
    refine wellFormed.substitutionsDistinct.pairwise_iff
      fun left right bareLeft bareRight differ => ?_
    rw [not_not.mp bareLeft, not_not.mp bareRight]
    exact differ

/-- White space behind a name gets a second test past the comparison of names, and another one
past that of pullspecs; the document then has both twice. -/
theorem edited_names_collide :
    let test (name : String) : TestPlan :=
      { TestPlan.blank with name, kind := .endToEnd, commands := some "make e2e" }
    let edits : List Edit := [.addTest (test "e2e"), .addTest (test "e2e "), .enableBundle,
      .addSubstitution ⟨"quay.io/a", "pipeline:a"⟩, .addSubstitution ⟨"quay.io/a ", "pipeline:b"⟩]
    let document := ofAnswers (Answers.blank.edited edits)
    document.jobNames = ["e2e", "e2e"] ∧ document.pullspecs = ["quay.io/a", "quay.io/a"] ∧
      ¬Distinct Text.sameIgnoringCase document.jobNames ∧
      ¬Distinct Text.sameIgnoringCase document.pullspecs := by
  decide +kernel

end Document

end Onboarding
