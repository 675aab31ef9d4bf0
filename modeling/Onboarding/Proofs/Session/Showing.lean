import Onboarding.Proofs.Answers.Lookup
import Onboarding.Proofs.Session.Operation

/-! # What is shown of a substitution

A substitution that is to be added is shown to the service twice in one request: as data of its
own, as it was entered, and as the last substitution of the document, without white space around
its texts. So the service is shown one and the same substitution exactly if there is no such white
space (`Onboarding.Session.substitution_is_shown_as_entered`).
-/

namespace Onboarding

/-- Different substitutions are shown differently. -/
theorem Substitution.toJson_inj {left right : Substitution} :
    left.toJson = right.toJson ↔ left = right := by
  cases left
  cases right
  simp [toJson]

/-- A substitution is its own trimmed form if neither text has white space around it. -/
theorem BundleSection.eq_trimmed_iff {substitution : Substitution} :
    substitution = trimmed substitution ↔
      Text.trim substitution.pullspec = substitution.pullspec ∧
        Text.trim substitution.replacement = substitution.replacement := by
  cases substitution
  rw [trimmed, Substitution.mk.injEq]
  exact and_congr eq_comm eq_comm

/-- The data of a substitution hold nothing but the substitution. -/
theorem Session.find?_substitutionData (substitution : Substitution) :
    (substitutionData substitution).find? "substitution" = some substitution.toJson := by
  simp [substitutionData, KeyMap.find?, KeyMap.insert, KeyMap.empty, KeyMap.insertEntry]

/-- The document of answers with one more substitution ends its bundle with that substitution,
trimmed. -/
theorem Document.bundle_withSubstitutions {answers : Answers}
    (built : answers.build.bundle.isSome = true) (substitutions : List Substitution)
    (substitution : Substitution) :
    ∃ bundle,
      (ofAnswers (answers.withSubstitutions (substitutions ++ [substitution]))).bundle =
        some bundle ∧
      bundle.substitutions.getLast? = some (BundleSection.trimmed substitution) := by
  obtain ⟨bundle, isBundle⟩ := Option.isSome_iff_exists.mp built
  refine ⟨BundleSection.ofPlan { bundle with substitutions := substitutions ++ [substitution] },
    ?_, ?_⟩
  · simp only [ofAnswers, Answers.withSubstitutions, isBundle, Option.map_some]
  · simp only [BundleSection.ofPlan, List.map_append, List.map_cons, List.map_nil,
      List.getLast?_concat]

namespace Session

variable (service : Service) (session : Session) (substitution : Substitution)

/-- The calls of an addition are those of the commitment that it begins with. -/
theorem asked_addSubstitution :
    (session.addSubstitution service substitution).1.asked =
      (session.commit service (.addSubstitution substitution) .operatorSubstitution
        (substitutionData substitution)).1.asked := by
  unfold addSubstitution
  rcases session.commit service (.addSubstitution substitution) .operatorSubstitution
    (substitutionData substitution) with ⟨committed, _ | _⟩
  · rfl
  · rw [followedBy, checkBuild_eq, settle_asked]

/-- An addition that is refused asks for nothing. -/
theorem asked_addSubstitution_of_error {error : EditError}
    (refused : (Edit.addSubstitution substitution).apply session.answers = .error error) :
    (session.addSubstitution service substitution).1.asked = session.asked := by
  rw [asked_addSubstitution, commit, refused]
  rfl

/-- An addition that is not refused asks for one validation, of the document of the answers with
the addition. -/
theorem asked_addSubstitution_of_ok {candidate : Answers}
    (applied : (Edit.addSubstitution substitution).apply session.answers = .ok candidate) :
    (session.addSubstitution service substitution).1.asked =
      session.asked ++ [.validate .operatorSubstitution (Document.ofAnswers candidate)
        (substitutionData substitution)] := by
  rw [asked_addSubstitution]
  rcases session.commit_cases service (.addSubstitution substitution) .operatorSubstitution
    (substitutionData substitution) with
    ⟨error, refused, _⟩ | ⟨other, appliedOther, ⟨_, committed⟩ | ⟨_, messages, committed⟩⟩
  · rw [applied] at refused
    cases refused
  · obtain rfl : candidate = other := Except.ok.inj (applied.symm.trans appliedOther)
    rw [committed]
    rfl
  · obtain rfl : candidate = other := Except.ok.inj (applied.symm.trans appliedOther)
    rw [committed]
    rfl

/-- When a bundle is built, a substitution for a pullspec that has none yet is shown to the service
in one validation. The data beside the document show it as it was entered, and the bundle of the
document ends with it without white space around its texts. These are the same exactly if there was
none. A substitution for a pullspec that has one is not shown. -/
theorem substitution_is_shown_as_entered (built : session.answers.build.bundle.isSome = true) :
    match session.answers.findSubstitution? substitution.pullspec with
    | some _ => (session.addSubstitution service substitution).1.asked = session.asked
    | none => ∃ document extra bundle shown,
        (session.addSubstitution service substitution).1.asked =
          session.asked ++ [.validate .operatorSubstitution document extra] ∧
        document.bundle = some bundle ∧ bundle.substitutions.getLast? = some shown ∧
        extra.find? "substitution" = some substitution.toJson ∧
        shown.pullspec = Text.trim substitution.pullspec ∧
        shown.replacement = Text.trim substitution.replacement ∧
        (extra.find? "substitution" = some shown.toJson ↔
          Text.trim substitution.pullspec = substitution.pullspec ∧
            Text.trim substitution.replacement = substitution.replacement) := by
  have refused_iff := (KeyedList.lawful_substitutions.duplicate_iff session.answers substitution
    built).trans isSome_position?_iff.symm
  rw [← KeyedList.lawful_substitutions.find?_eq] at refused_iff
  dsimp only [KeyedList.substitutions] at refused_iff
  cases found : session.answers.findSubstitution? substitution.pullspec with
  | some index =>
      dsimp only
      rw [found] at refused_iff
      exact session.asked_addSubstitution_of_error service substitution (refused_iff.mpr rfl)
  | none =>
      dsimp only
      have fresh : ∀ existing ∈ session.answers.substitutions,
          existing.samePullspec substitution = false := by
        rw [Answers.findSubstitution?_eq] at found
        exact List.findIdx?_eq_none_iff.mp found
      have applied := Edit.apply_addSubstitution_iff.mpr ⟨built, fresh, rfl⟩
      obtain ⟨bundle, isBundle, isLast⟩ :=
        Document.bundle_withSubstitutions built session.answers.substitutions substitution
      have data := find?_substitutionData substitution
      refine ⟨_, _, bundle, _, session.asked_addSubstitution_of_ok service substitution applied,
        isBundle, isLast, data, rfl, rfl, ?_⟩
      rw [data, Option.some.injEq, Substitution.toJson_inj, BundleSection.eq_trimmed_iff]

/-- A substitution without white space around its texts is shown once in two places. -/
theorem substitution_is_shown_as_entered_sample :
    let service := Service.agreeable
    let answers := { Answers.sample with
      build := { Answers.sample.build with bundle := some BundlePlan.blank } }
    let session := Session.start service answers .unknown
    ∃ document extra bundle shown,
      (session.addSubstitution service ⟨"p", "w"⟩).1.asked =
        session.asked ++ [.validate .operatorSubstitution document extra] ∧
      document.bundle = some bundle ∧ bundle.substitutions.getLast? = some shown ∧
      extra.find? "substitution" = some shown.toJson := by
  intro service answers session
  have built : session.answers.build.bundle.isSome = true := by decide +kernel
  have bare : Text.trim "p" = "p" ∧ Text.trim "w" = "w" := by decide +kernel
  have absent : session.answers.findSubstitution? "p" = none := by decide +kernel
  have isShown := substitution_is_shown_as_entered service session ⟨"p", "w"⟩ built
  dsimp only at isShown
  rw [absent] at isShown
  obtain ⟨document, extra, bundle, shown, asked, isBundle, isLast, _, _, _, same⟩ := isShown
  exact ⟨document, extra, bundle, shown, asked, isBundle, isLast, same.mpr bare⟩

/-- White space before a pullspec is shown in the data, but not in the document. -/
theorem substitution_is_shown_in_two_ways :
    let service := Service.agreeable
    let answers := { Answers.sample with
      build := { Answers.sample.build with bundle := some BundlePlan.blank } }
    let session := Session.start service answers .unknown
    ∃ document extra bundle,
      (session.addSubstitution service ⟨" p", "w"⟩).1.asked =
        session.asked ++ [.validate .operatorSubstitution document extra] ∧
      document.bundle = some bundle ∧ bundle.substitutions.getLast? = some ⟨"p", "w"⟩ ∧
      extra.find? "substitution" = some (Substitution.toJson ⟨" p", "w"⟩) ∧
      extra.find? "substitution" ≠ some (Substitution.toJson ⟨"p", "w"⟩) := by
  intro service answers session
  have built : session.answers.build.bundle.isSome = true := by decide +kernel
  have trimmed : BundleSection.trimmed ⟨" p", "w"⟩ = ⟨"p", "w"⟩ := by decide +kernel
  have applied : (Edit.addSubstitution ⟨" p", "w"⟩).apply session.answers =
      .ok (session.answers.withSubstitutions ([] ++ [⟨" p", "w"⟩])) := by decide +kernel
  obtain ⟨bundle, isBundle, isLast⟩ :=
    Document.bundle_withSubstitutions built [] ⟨" p", "w"⟩
  have data := find?_substitutionData ⟨" p", "w"⟩
  refine ⟨_, _, bundle, session.asked_addSubstitution_of_ok service _ applied, isBundle,
    isLast.trans (congrArg some trimmed), data, ?_⟩
  rw [data, ne_eq, Option.some.injEq, Substitution.toJson_inj]
  decide

end Session

end Onboarding
