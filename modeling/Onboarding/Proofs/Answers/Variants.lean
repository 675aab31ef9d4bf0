import Onboarding.Proofs.Answers.Lookup
import Onboarding.Proofs.Text.LetterCase

/-! # Keys in another letter case

The entries of a list are told apart by texts, ignoring case: two texts are the same if their lower
cases are. So an entry whose text is that of another one in lower case is always refused as a
duplicate. One whose text is that of another one in upper case is refused exactly if that text comes
back from its upper case, or if a third entry happens to be in the way
(`Onboarding.Answers.case_variants_are_refused`). Texts of ASCII characters come back, but others
need not: next to a test "ß" there is room for a test "SS".
-/

namespace Onboarding

namespace KeyedList

variable {α κ : Type} (list : KeyedList α κ)

/-- What becomes of entries whose texts are those of other entries in another letter case, when they
are alike otherwise. -/
structure RefusesVariants (text : α → String) (alike : α → α → Prop) (answers : Answers) :
    Prop where
  lower : ∀ existing ∈ list.entries answers, ∀ entry, list.compares answers entry →
    alike existing entry → text entry = Text.lower (text existing) →
    (list.add entry).apply answers = .error list.duplicate
  upper : ∀ existing ∈ list.entries answers, ∀ entry, list.compares answers entry →
    alike existing entry → text entry = Text.upper (text existing) →
    ((list.add entry).apply answers = .error list.duplicate ↔
      Text.RegainsCase (text existing) ∨
        ∃ other ∈ list.entries answers, other ≠ existing ∧
          list.same (list.key other) (list.key entry) = true)

variable {list} {text : α → String} {alike : α → α → Prop}

/-- A lawful list refuses variants in another letter case where its keys ignore the case of
the text. -/
theorem Lawful.refusesVariants (lawful : list.Lawful)
    (same_iff : ∀ existing entry, alike existing entry →
      (list.same (list.key existing) (list.key entry) = true ↔
        Text.sameIgnoringCase (text existing) (text entry) = true)) (answers : Answers) :
    list.RefusesVariants text alike answers where
  lower := by
    intro existing member entry compared isAlike isLower
    refine (lawful.duplicate_iff answers entry compared).mpr ⟨existing, member, ?_⟩
    rw [same_iff existing entry isAlike, isLower, Text.sameIgnoringCase, beq_iff_eq,
      Text.lower_lower]
  upper := by
    intro existing member entry compared isAlike isUpper
    have here := (same_iff existing entry isAlike).trans
      (isUpper ▸ Text.sameIgnoringCase_upper_iff (text existing))
    rw [lawful.duplicate_iff answers entry compared]
    constructor
    · rintro ⟨other, isOther, same⟩
      by_cases isExisting : other = existing
      · exact .inl (here.mp (isExisting ▸ same))
      · exact .inr ⟨other, isOther, isExisting, same⟩
    · rintro (regains | ⟨other, isOther, _, same⟩)
      · exact ⟨existing, member, here.mpr regains⟩
      · exact ⟨other, isOther, same⟩

end KeyedList

/-- Whether two image tags are equal but for their names. -/
def ImageTag.AlikeButName (left right : ImageTag) : Prop :=
  left.project = right.project ∧ left.tag = right.tag

/-- Images that are alike but for their names are the same if the names are. -/
theorem ImageTag.sameAs_iff_of_alike {left right : ImageTag} (alike : left.AlikeButName right) :
    left.sameAs right = true ↔ Text.sameIgnoringCase left.name right.name = true := by
  have same := Text.sameIgnoringCase_equivalence.refl
  rw [sameAs, alike.1, alike.2, Bool.and_eq_true, Bool.and_eq_true, and_iff_left (same _),
    and_iff_left (same _)]

namespace Answers

/-- A test or a substitution whose key is that of another in lower case is refused as a duplicate,
and so is a complete base image that has the name of another in lower case and is like it in its
other parts. In upper case this is so exactly if the key comes back from its upper case, unless
there is a further entry that has the new key already. -/
theorem case_variants_are_refused (answers : Answers) :
    KeyedList.tests.RefusesVariants TestPlan.name (fun _ _ => True) answers ∧
    KeyedList.substitutions.RefusesVariants Substitution.pullspec (fun _ _ => True) answers ∧
    KeyedList.images.RefusesVariants ImageTag.name ImageTag.AlikeButName answers := by
  refine ⟨KeyedList.lawful_tests.refusesVariants (fun _ _ _ => Iff.rfl) answers,
    KeyedList.lawful_substitutions.refusesVariants (fun _ _ _ => Iff.rfl) answers,
    KeyedList.lawful_images.refusesVariants ?_ answers⟩
  dsimp only [KeyedList.images]
  exact fun _ _ => ImageTag.sameAs_iff_of_alike

/-- The upper case of a sharp s is taken for another name. -/
theorem sharp_s_is_added_twice :
    let test (name : String) : TestPlan := { TestPlan.blank with name, commands := some "make" }
    let answers := blank.withTests [test "ß"]
    Text.upper "ß" = "SS" ∧
      (Edit.addTest (test (Text.upper "ß"))).apply answers =
        .ok (blank.withTests [test "ß", test (Text.upper "ß")]) := by
  intro test answers
  have isUpper : Text.upper "ß" = "SS" := by decide +kernel
  refine ⟨isUpper, Edit.apply_addTest_iff.mpr ⟨?_, ?_, rfl⟩⟩
  · rw [isUpper]
    decide +kernel
  · rw [isUpper]
    decide +kernel

end Answers

end Onboarding
