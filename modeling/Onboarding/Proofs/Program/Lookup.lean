import Onboarding.Program
import Onboarding.Proofs.Session.Walking

/-! # The repository that is looked up

A walk looks up one repository, and then shows documents of one repository to the service. The
lookup goes by the trimmed names of the organization and the repository, but the documents
carry the names as they were given; so the two are the same repository exactly if neither name
has white space around it (`Onboarding.walk_looks_up_trimmed_names`).
-/

namespace Onboarding

/-- The document that a call shows to the service. -/
def Call.document? : Call → Option Document
  | .validate _ document _ | .convert document | .generate document _ _ => some document
  | .lookup _ _ => none

/-- A walk that reaches its end makes the ideal calls. -/
theorem Session.asked_walk {service : Service} {answers : Answers} {caller : Caller}
    {pullRequest dryRun : Bool}
    (reached : (walk service answers caller pullRequest dryRun).2.isOk = true) :
    (walk service answers caller pullRequest dryRun).1.asked =
      answers.idealCalls caller pullRequest dryRun := by
  obtain ⟨travelled, _⟩ := walk_travels service answers caller pullRequest dryRun
  obtain ⟨made, isMade, course⟩ :=
    Milestone.course_travel service [] (answers.itinerary caller pullRequest dryRun)
  rw [travelled, List.nil_append] at isMade
  rw [travelled, Answers.calls_itinerary] at course
  exact isMade.trans (course.whole reached)

namespace Answers

variable (answers : Answers) (caller : Caller) (pullRequest dryRun : Bool)

/-- A call shows a document under the names that the answers give. -/
def Names (call : Call) : Prop :=
  ∃ document, call.document? = some document ∧
    document.org = answers.org ∧ document.repo = answers.repo

/-- A document names the repository as the answers do, however many entries have been
added. -/
theorem names_validate {scope : Scope} {extra : Extra} (images substitutions tests : Nat) :
    answers.Names (.validate scope
      (Document.ofAnswers (answers.withBranch.cut images substitutions tests)) extra) :=
  ⟨_, rfl, answers.withBranch_org, answers.withBranch_repo⟩

/-- The document of all answers names the repository as they do, wherever it is sent. -/
theorem names_whole :
    answers.Names (.validate .all (Document.ofAnswers answers.withBranch) KeyMap.empty) ∧
    answers.Names (.convert (Document.ofAnswers answers.withBranch)) ∧
    answers.Names (.generate (Document.ofAnswers answers.withBranch) caller pullRequest) := by
  have org := answers.withBranch_org
  have repo := answers.withBranch_repo
  exact ⟨⟨_, rfl, org, repo⟩, ⟨_, rfl, org, repo⟩, ⟨_, rfl, org, repo⟩⟩

/-- The ideal calls begin with a lookup by the trimmed names, and all others show documents
under the names as they were given. -/
theorem idealCalls_cases :
    ∃ later, answers.idealCalls caller pullRequest dryRun =
        .lookup (Text.trim answers.org) (Text.trim answers.repo) :: later ∧
      .convert (Document.ofAnswers answers.withBranch) ∈ later ∧
      ∀ call ∈ later, answers.Names call := by
  obtain ⟨validated, converted, generated⟩ := answers.names_whole caller pullRequest
  unfold idealCalls
  simp only [List.append_assoc, List.cons_append, List.nil_append]
  refine ⟨_, rfl, ?_, ?_⟩
  · simp only [List.mem_append, List.mem_cons, true_or, or_true]
  · intro call member
    simp only [List.mem_append, List.mem_cons, List.mem_map, Prod.exists] at member
    rcases member with ⟨_, index, _, rfl⟩ | ⟨_, index, _, rfl⟩ | ⟨_, index, _, rfl⟩ |
      rfl | rfl | atEnd
    · exact answers.names_validate _ _ _
    · exact answers.names_validate _ _ _
    · exact answers.names_validate _ _ _
    · exact validated
    · exact converted
    · split at atEnd
      · cases atEnd
      · exact List.mem_singleton.mp atEnd ▸ generated

end Answers

open CommandLine (AnswersSource)

/-- A walk succeeds as a command if it does as a walk. -/
theorem Command.isOk_runOn_walk (service : Service) (caller : Caller) (answers : Answers)
    (source : AnswersSource) (pullRequest dryRun : Bool) :
    (runOn service (.walk source pullRequest dryRun) caller answers).output.isOk =
      (Session.walk service answers caller pullRequest dryRun).2.isOk := by
  simp only [runOn]
  cases (Session.walk service answers caller pullRequest dryRun).2 <;> rfl

/-- A walk that succeeds looks up one repository by its trimmed names, and then shows documents
under the names as they were given. These are the names that were looked up exactly if neither
has white space around it. -/
theorem walk_looks_up_trimmed_names (service : Service) (caller : Caller) (answers : Answers)
    (source : AnswersSource) (pullRequest dryRun : Bool)
    (succeeded : (Command.runOn service (.walk source pullRequest dryRun) caller
      answers).output.isOk = true) :
    ∃ org repo later,
      (Command.runOn service (.walk source pullRequest dryRun) caller answers).asked =
        .lookup org repo :: later ∧
      org = Text.trim answers.org ∧ repo = Text.trim answers.repo ∧
      (∀ call ∈ later, answers.Names call) ∧
      ((∀ call ∈ later, ∀ document, call.document? = some document →
        org = document.org ∧ repo = document.repo) ↔
        Text.trim answers.org = answers.org ∧ Text.trim answers.repo = answers.repo) := by
  have reached : (Session.walk service answers caller pullRequest dryRun).2.isOk = true :=
    Command.isOk_runOn_walk service caller answers source pullRequest dryRun ▸ succeeded
  obtain ⟨later, isIdeal, converted, names⟩ :=
    answers.idealCalls_cases caller pullRequest dryRun
  have asked := (Session.asked_walk reached).trans isIdeal
  refine ⟨_, _, later, asked, rfl, rfl, names, ⟨?_, ?_⟩⟩
  · intro agree
    obtain ⟨org, repo⟩ := agree _ converted _ rfl
    exact ⟨org.trans answers.withBranch_org, repo.trans answers.withBranch_repo⟩
  · rintro ⟨org, repo⟩ call member document shown
    obtain ⟨other, shownOther, isOrg, isRepo⟩ := names call member
    obtain rfl : document = other := Option.some.inj (shown.symm.trans shownOther)
    exact ⟨org.trans isOrg.symm, repo.trans isRepo.symm⟩

/-- Names without white space around them are looked up as they are shown. -/
theorem walk_looks_up_sample :
    let result := Command.runOn .agreeable (.walk ⟨"a.json", []⟩ true false) .unknown .sample
    result.output.isOk = true ∧ ∃ org repo later, result.asked = .lookup org repo :: later ∧
      ∀ call ∈ later, ∀ document, call.document? = some document →
        org = document.org ∧ repo = document.repo := by
  intro result
  have succeeded : result.output.isOk = true := by decide +kernel
  obtain ⟨org, repo, later, asked, _, _, _, agree⟩ :=
    walk_looks_up_trimmed_names .agreeable .unknown .sample ⟨"a.json", []⟩ true false succeeded
  exact ⟨succeeded, org, repo, later, asked, agree.mpr (by decide +kernel)⟩

/-- White space before the name of the organization gets a walk past a configuration that the
service knows under that name: another name is looked up. -/
theorem walk_looks_up_other_repository :
    let service := Service.knowing " o"
    let answers := { Answers.sample with org := " o" }
    let result := Command.runOn service (.walk ⟨"a.json", []⟩ true false) .unknown answers
    result.output.isOk = true ∧ result.asked.head? = some (.lookup "o" "r") ∧
      ∃ document, .convert document ∈ result.asked ∧ document.org = " o" ∧
        service.lookup [] document.org document.repo = .ok true := by
  intro service answers result
  have succeeded : result.output.isOk = true := by decide +kernel
  have reached : (Session.walk service answers .unknown true false).2.isOk = true :=
    Command.isOk_runOn_walk service .unknown answers ⟨"a.json", []⟩ true false ▸ succeeded
  obtain ⟨later, isIdeal, converted, _⟩ := answers.idealCalls_cases .unknown true false
  have asked : result.asked = _ := (Session.asked_walk reached).trans isIdeal
  have names : Text.trim " o" = "o" ∧ Text.trim "r" = "r" := by decide +kernel
  rw [asked]
  refine ⟨succeeded, ?_, _, List.mem_cons_of_mem _ converted, answers.withBranch_org, ?_⟩
  · change some (Call.lookup (Text.trim " o") (Text.trim "r")) = some (.lookup "o" "r")
    rw [names.1, names.2]
  · exact congrArg Except.ok (beq_iff_eq.mpr answers.withBranch_org)

end Onboarding
