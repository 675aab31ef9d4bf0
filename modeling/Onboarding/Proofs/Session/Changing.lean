import Onboarding.Proofs.Edit.Atomicity
import Onboarding.Session.Walk

/-! # Sessions changed in place

An edit, an assignment and a step to the next stage change a session in place. The check of a
stage is never refused, so it is only the edit, or the question whether the stage is complete,
that can be; and these leave the session as it was (`Onboarding.Session.isAtomic_dispatch`,
`Onboarding.Session.isAtomic_set`, `Onboarding.Session.isAtomic_next`).
-/

namespace Onboarding.Session

open InPlace

variable (service : Service) (session : Session)

/-- A session keeps what is left of its answers, and all of its other parts. -/
theorem isAtomic_onAnswers {ε : Type} {change : InPlace ε Answers Unit}
    (atomic : change.IsAtomic) : (onAnswers change).IsAtomic :=
  atomic.part fun _ => rfl

/-- An edit that is refused leaves the session as it was, and its stage is not checked. -/
theorem isAtomic_dispatch (edit : Edit) : (dispatchInPlace service edit).IsAtomic :=
  (isAtomic_onAnswers edit.isAtomic_change).andModify _

/-- An assignment that is refused leaves the session as it was. -/
theorem isAtomic_set (path : String) (text : Option String) :
    (setInPlace service path text).IsAtomic := by
  unfold setInPlace
  split
  · exact (observes_throw _).isAtomic
  · exact (observes_pure _).isAtomic
  · exact isAtomic_dispatch service _

/-- A stage that cannot be left leaves the session as it was. -/
theorem isAtomic_next : (nextInPlace service).IsAtomic := by
  refine observes_get.andThen fun session => (observes_require _ _).andThen fun _ => ?_
  cases session.stage.next? with
  | none => exact (observes_pure _).isAtomic
  | some stage => exact InPlace.isAtomic_set _

/-- What comes of an edit: the stage is checked with the edited answers. -/
theorem dispatch_eq (edit : Edit) :
    session.dispatch service edit =
      (edit.apply session.answers).map fun answers => { session with answers }.check service := by
  unfold dispatch dispatchInPlace
  rw [apply_andModify, onAnswers, apply_part]
  cases copied : edit.change.apply session.answers with
  | error _ =>
      rw [Edit.apply, copied]
      rfl
  | ok answers =>
      rw [Edit.apply, copied]
      rfl

/-- What comes of an assignment that is understood as an edit, or as none. -/
theorem set_eq_of_assignment (path : String) (text : Option String) :
    session.set service path text =
      match Edit.ofAssignment path text with
      | .error error => .error error
      | .ok none => .ok session
      | .ok (some edit) => session.dispatch service edit := by
  unfold set setInPlace
  cases Edit.ofAssignment path text with
  | error _ => rfl
  | ok meant => cases meant <;> rfl

/-- What comes of a step to the next stage. -/
theorem next_eq :
    session.next service =
      if session.record.complete then
        match session.stage.next? with
        | some stage => .ok (session.enter service stage)
        | none => .ok session
      else .error ⟨session.stage⟩ := by
  unfold next nextInPlace
  rw [apply_get_bind, apply_require_bind]
  cases session.stage.next? <;> rfl

/-- A walk goes on as the session goes to the next stage, and ends with the session as it is. -/
theorem advance_eq : session.advance service = (session.next service).mapError fun _ => session := by
  rw [advance, (isAtomic_next service).eq_of_apply, next]
  cases (nextInPlace service).apply session <;> rfl

end Onboarding.Session
