import Onboarding.Proofs.Session.Answering

/-! # Milestones

What a session has to get past on a way laid out beforehand is a list of milestones:
conditions that the answers meet or do not meet by themselves, and calls that have to
be answered in the way that lets things go on. Travelling stops at a condition that is
not met, and behind a call that is answered otherwise
(`Onboarding.Milestone.travel`).

So the calls made on the way are the first ones of those laid out, and all but the last of
them were answered well; they are all of them when the end is reached. Who does not reach
the end was stopped by the last call made, or by a condition
(`Onboarding.Milestone.stopped_cases`).
-/

namespace Onboarding

/-- Something to get past: a condition on the answers, or a call. -/
inductive Milestone where
  | condition (met : Bool)
  | call (call : Call)

namespace Milestone

/-- The call of a milestone, if it is one. -/
def call? : Milestone → Option Call
  | condition _ => none
  | call asked => some asked

/-- The calls among some milestones. -/
def calls (milestones : List Milestone) : List Call := milestones.filterMap call?

/-- Whether a milestone is not a condition that fails. -/
def isMet : Milestone → Bool
  | condition met => met
  | call _ => true

@[simp] theorem isMet_condition (met : Bool) : (condition met).isMet = met := rfl

@[simp] theorem isMet_call (asked : Call) : (call asked).isMet = true := rfl

variable (service : Service)

/-- Get past some milestones, having made some calls before. Told are all calls made in
the end, and whether the end was reached. -/
def travel : List Call → List Milestone → List Call × Bool
  | asked, [] => (asked, true)
  | asked, condition met :: rest => if met then travel asked rest else (asked, false)
  | asked, call next :: rest =>
    if service.affirms asked next then travel (asked ++ [next]) rest else (asked ++ [next], false)

variable {service} {asked : List Call} {rest : List Milestone} {next : Call}

theorem travel_met :
    travel service asked (condition true :: rest) = travel service asked rest := rfl

theorem travel_affirmed (affirmed : service.affirms asked next = true) :
    travel service asked (call next :: rest) = travel service (asked ++ [next]) rest :=
  if_pos affirmed

theorem travel_refused (refused : service.affirms asked next = false) :
    travel service asked (call next :: rest) = (asked ++ [next], false) :=
  if_neg (Bool.not_eq_true _ ▸ refused)

theorem travel_call :
    travel service asked [call next] = (asked ++ [next], service.affirms asked next) := by
  simp only [travel]
  cases service.affirms asked next <;> rfl

/-- Who reaches the end of a way goes on from there. -/
theorem travel_append {middle : List Call} {first : List Milestone}
    (second : List Milestone) (reached : travel service asked first = (middle, true)) :
    travel service asked (first ++ second) = travel service middle second := by
  induction first generalizing asked with
  | nil =>
      cases reached
      rfl
  | cons milestone rest ih =>
      cases milestone with
      | condition met =>
          cases met with
          | true => exact ih reached
          | false => cases reached
      | call next =>
          simp only [travel, List.cons_append] at reached ⊢
          split at reached
          · rename_i affirmed
            rw [if_pos affirmed]
            exact ih reached
          · cases reached

/-- Who is stopped on a way does not come to the next. -/
theorem travel_append_of_stopped {ended : List Call} {first : List Milestone}
    (second : List Milestone) (stopped : travel service asked first = (ended, false)) :
    travel service asked (first ++ second) = (ended, false) := by
  induction first generalizing asked with
  | nil => cases stopped
  | cons milestone rest ih =>
      cases milestone with
      | condition met =>
          cases met with
          | true => exact ih stopped
          | false => exact stopped
      | call next =>
          simp only [travel, List.cons_append] at stopped ⊢
          split at stopped
          · rename_i affirmed
            rw [if_pos affirmed]
            exact ih stopped
          · rename_i refused
            rw [if_neg refused]
            exact stopped

/-- The calls made on the way, in relation to those laid out: they are the first of them, all
of them at the end, and only the last can be answered otherwise than to let things go on. -/
structure Course (service : Service) (before made laidOut : List Call) (reached : Bool) : Prop where
  inOrder : made <+: laidOut
  whole : reached = true → made = laidOut
  affirmed : ∀ earlier call later, made = earlier ++ call :: later →
    later ≠ [] ∨ reached = true → service.affirms (before ++ earlier) call = true

/-- Whoever travels makes a course over the calls on the way. -/
theorem course_travel (service : Service) (before : List Call) (milestones : List Milestone) :
    ∃ made, (travel service before milestones).1 = before ++ made ∧
      Course service before made (calls milestones) (travel service before milestones).2 := by
  induction milestones generalizing before with
  | nil =>
      refine ⟨[], by simp [travel], List.nil_prefix, fun _ => rfl, ?_⟩
      intro earlier call later split
      simp at split
  | cons milestone rest ih =>
      cases milestone with
      | condition met =>
          cases met with
          | true => exact ih before
          | false =>
              refine ⟨[], by simp [travel], List.nil_prefix,
                fun whole => absurd whole Bool.false_ne_true, ?_⟩
              intro earlier call later split
              simp at split
      | call next =>
          have laidOut : calls (call next :: rest) = next :: calls rest := rfl
          rw [laidOut, travel]
          split
          · rename_i affirmed
            obtain ⟨made, asked, course⟩ := ih (before ++ [next])
            refine ⟨next :: made, by simpa using asked, ?_, ?_, ?_⟩
            · exact List.cons_prefix_cons.mpr ⟨rfl, course.inOrder⟩
            · exact fun reached => by rw [course.whole reached]
            · intro earlier call later isSplit goesOn
              cases earlier with
              | nil =>
                  obtain ⟨rfl, _⟩ := List.cons.inj isSplit
                  simpa using affirmed
              | cons first earlier =>
                  obtain ⟨rfl, others⟩ := List.cons.inj isSplit
                  simpa using course.affirmed earlier call later others goesOn
          · refine ⟨[next], rfl, ?_, fun whole => absurd whole Bool.false_ne_true, ?_⟩
            · exact List.cons_prefix_cons.mpr ⟨rfl, List.nil_prefix⟩
            · intro earlier call later isSplit goesOn
              cases earlier with
              | nil =>
                  obtain ⟨_, rfl⟩ := List.cons.inj isSplit
                  rcases goesOn with more | reached
                  · exact absurd rfl more
                  · cases reached
              | cons first earlier =>
                  obtain ⟨_, others⟩ := List.cons.inj isSplit
                  simp at others

/-- Whoever reaches the end met all conditions. -/
theorem isMet_of_reached {before ended : List Call} {milestones : List Milestone}
    (reached : travel service before milestones = (ended, true)) :
    ∀ milestone ∈ milestones, milestone.isMet = true := by
  induction milestones generalizing before with
  | nil => exact fun _ member => absurd member List.not_mem_nil
  | cons milestone rest ih =>
      intro other member
      cases milestone with
      | condition met =>
          cases met with
          | true =>
              rcases List.mem_cons.mp member with rfl | inRest
              · rfl
              · exact ih reached other inRest
          | false => cases reached
      | call next =>
          simp only [travel] at reached
          split at reached
          · rcases List.mem_cons.mp member with rfl | inRest
            · rfl
            · exact ih reached other inRest
          · cases reached

/-- Whoever made a call had got past all that is laid out before it, and made no other calls
after it than those laid out behind it. -/
theorem passed_of_made {before ended earlier later : List Call} {milestones : List Milestone}
    {made : Call} {reached : Bool}
    (travelled : travel service before milestones = (ended, reached))
    (isSplit : ended = before ++ (earlier ++ made :: later)) :
    ∃ first others, milestones = first ++ call made :: others ∧ calls first = earlier ∧
      travel service before first = (before ++ earlier, true) ∧ later <+: calls others := by
  induction milestones generalizing before earlier with
  | nil =>
      obtain ⟨rfl, _⟩ := Prod.mk.inj travelled
      simp at isSplit
  | cons milestone rest ih =>
      cases milestone with
      | condition met =>
          cases met with
          | true =>
              obtain ⟨first, others, rfl, isEarlier, passed, behind⟩ := ih travelled isSplit
              exact ⟨condition true :: first, others, rfl, isEarlier, passed, behind⟩
          | false =>
              obtain ⟨rfl, _⟩ := Prod.mk.inj travelled
              simp at isSplit
      | call next =>
          obtain ⟨onward, isOnward, course⟩ := course_travel service before (call next :: rest)
          rw [travelled] at isOnward
          have sameCalls : earlier ++ made :: later = onward :=
            List.append_cancel_left (isSplit.symm.trans isOnward)
          have inOrder : earlier ++ made :: later <+: next :: calls rest :=
            sameCalls ▸ course.inOrder
          cases earlier with
          | nil =>
              obtain ⟨rfl, behind⟩ := List.cons_prefix_cons.mp inOrder
              refine ⟨[], rest, rfl, rfl, ?_, behind⟩
              rw [List.append_nil]
              rfl
          | cons called earlier =>
              obtain ⟨rfl, _⟩ := List.cons_prefix_cons.mp inOrder
              simp only [travel] at travelled
              split at travelled
              · rename_i affirmed
                obtain ⟨first, others, rfl, rfl, passed, behind⟩ :=
                  ih travelled (isSplit.trans (List.append_cons ..))
                refine ⟨call called :: first, others, rfl, rfl, ?_, behind⟩
                rw [travel_affirmed affirmed, passed, List.append_assoc]
                rfl
              · -- behind a call that is refused there is no other
                obtain ⟨rfl, _⟩ := Prod.mk.inj travelled
                simp at isSplit

end Milestone

end Onboarding
