import Onboarding.Edit.InPlace
import Onboarding.Proofs.Result

/-! # Changes that leave no trace when they are refused

A change is atomic if it leaves the state as it was whenever it is refused
(`Onboarding.InPlace.IsAtomic`). Not every change is: one that writes and then asks a
question leaves what it wrote. But steps that only look at the state can stand in front of an
atomic change (`Onboarding.InPlace.Observes.andThen`), and a change of a part is as atomic as
the change that is made to the part (`Onboarding.InPlace.IsAtomic.part`). So a change that asks
all its questions before its first write is atomic, however deep in the state it writes.
-/

namespace Onboarding.InPlace

variable {ε δ σ τ α β : Type}

/-- Steps that only look at the state: refused or not, they leave it as it was. -/
def Observes (look : InPlace ε σ α) : Prop :=
  ∀ before, (∃ value, look before = .ok value before) ∨
    ∃ reason, look before = .error reason before

/-- Steps that leave the state as it was when they are refused. -/
def IsAtomic (steps : InPlace ε σ α) : Prop :=
  ∀ before reason left, steps before = .error reason left → left = before

/-! ## Steps that only look -/

/-- To look at the state only looks. -/
theorem observes_get : Observes (get : InPlace ε σ σ) := fun before => .inl ⟨before, rfl⟩

theorem observes_pure (value : α) : Observes (pure value : InPlace ε σ α) :=
  fun _ => .inl ⟨value, rfl⟩

theorem observes_throw (reason : ε) : Observes (throw reason : InPlace ε σ α) :=
  fun _ => .inr ⟨reason, rfl⟩

/-- To require something only looks. -/
theorem observes_require (holds : Bool) (reason : ε) :
    Observes (require holds reason : InPlace ε σ Unit) := by
  cases holds with
  | true => exact observes_pure ()
  | false => exact observes_throw reason

/-- To go on with a result that was found elsewhere, or to stop, only looks. -/
theorem observes_ofExcept (result : Except ε α) : Observes (ofExcept result : InPlace ε σ α) := by
  cases result with
  | ok value => exact observes_pure value
  | error reason => exact observes_throw reason

/-! ## Atomic changes -/

/-- Steps that only look are atomic. -/
theorem Observes.isAtomic {look : InPlace ε σ α} (observes : Observes look) : IsAtomic look := by
  intro before reason left refused
  rcases observes before with ⟨_, looked⟩ | ⟨_, looked⟩
  · rw [looked] at refused
    cases refused
  · rw [looked] at refused
    cases refused
    rfl

/-- A single write is atomic, since it is never refused. -/
theorem isAtomic_set (after : σ) : IsAtomic (set after : InPlace ε σ PUnit) := by
  intro before reason left refused
  cases refused

theorem isAtomic_modify (write : σ → σ) : IsAtomic (modify write : InPlace ε σ PUnit) := by
  intro before reason left refused
  cases refused

/-- Questions in front of an atomic change leave it atomic. -/
theorem Observes.andThen {look : InPlace ε σ α} {onward : α → InPlace ε σ β}
    (observes : Observes look) (atomic : ∀ value, IsAtomic (onward value)) :
    IsAtomic (look >>= onward) := by
  intro before reason left refused
  change EStateM.bind look onward before = _ at refused
  unfold EStateM.bind at refused
  rcases observes before with ⟨value, looked⟩ | ⟨_, looked⟩
  · rw [looked] at refused
    exact atomic value before reason left refused
  · rw [looked] at refused
    cases refused
    rfl

/-- An atomic change stays atomic when a step follows that is never refused. -/
theorem IsAtomic.andModify {change : InPlace ε σ Unit} (atomic : IsAtomic change)
    (write : σ → σ) : IsAtomic (do change; modify write) := by
  intro before reason left refused
  change EStateM.bind change (fun _ => modify write) before = _ at refused
  unfold EStateM.bind at refused
  cases made : change before with
  | ok _ after =>
      rw [made] at refused
      cases refused
  | error other kept =>
      rw [made] at refused
      cases refused
      exact atomic before reason left made

/-- A change of a part leaves the whole as it was if it leaves the part so. -/
theorem IsAtomic.part {read : σ → τ} {write : σ → τ → σ} {change : InPlace ε τ Unit}
    (atomic : IsAtomic change) (restores : ∀ whole, write whole (read whole) = whole) :
    IsAtomic (part read write change) := by
  intro before reason left refused
  unfold InPlace.part at refused
  cases made : change (read before) with
  | ok _ _ =>
      rw [made] at refused
      cases refused
  | error other kept =>
      rw [made] at refused
      cases refused
      rw [atomic (read before) reason kept made, restores]

/-- A change of what may be there is as atomic as it is where that is there. -/
theorem IsAtomic.present {change : InPlace ε τ Unit} (atomic : IsAtomic change) (absent : ε) :
    IsAtomic (change.present absent) := by
  intro before reason left refused
  cases before with
  | none =>
      cases refused
      rfl
  | some content =>
      unfold InPlace.present at refused
      dsimp only at refused
      cases made : change content with
      | ok _ _ =>
          rw [made] at refused
          cases refused
      | error other kept =>
          rw [made] at refused
          cases refused
          rw [atomic content reason kept made]

/-- The reason that is given does not matter. -/
theorem IsAtomic.adaptExcept {change : InPlace ε σ Unit} (atomic : IsAtomic change)
    (adapt : ε → δ) : IsAtomic (EStateM.adaptExcept adapt change) := by
  intro before reason left refused
  unfold EStateM.adaptExcept at refused
  cases made : change before with
  | ok _ _ =>
      rw [made] at refused
      cases refused
  | error other kept =>
      rw [made] at refused
      cases refused
      exact atomic before other left made

/-! ## What comes of a copy -/

variable {change : InPlace ε σ Unit} {before after : σ} {reason : ε}

/-- A change is accepted on a copy exactly if it is accepted in place, with the same
outcome. -/
theorem apply_eq_ok_iff : change.apply before = .ok after ↔ change before = .ok () after := by
  unfold apply
  cases change before with
  | ok _ made => simp
  | error _ _ => simp

/-- An atomic change that is refused on a copy would have left the state as it was. -/
theorem IsAtomic.apply_eq_error_iff (atomic : IsAtomic change) :
    change.apply before = .error reason ↔ change before = .error reason before := by
  unfold apply
  cases made : change before with
  | ok _ _ => simp
  | error other kept =>
      rw [atomic before other kept made]
      simp

/-- An atomic change is told by what comes of a copy. -/
theorem IsAtomic.eq_of_apply (atomic : IsAtomic change) (before : σ) :
    change before =
      match change.apply before with
      | .ok after => .ok () after
      | .error reason => .error reason before := by
  cases copied : change.apply before with
  | ok after => exact apply_eq_ok_iff.mp copied
  | error reason => exact atomic.apply_eq_error_iff.mp copied

/-- What an atomic change leaves behind is what comes of a copy, or else the state as it was. -/
theorem IsAtomic.leave_eq (atomic : IsAtomic change) (before : σ) :
    change.leave before = (change.apply before).toOption.getD before := by
  unfold leave apply
  cases made : change before with
  | ok _ _ => rfl
  | error other kept => exact atomic before other kept made

@[simp] theorem apply_set (after before : σ) :
    apply (set after : InPlace ε σ PUnit) before = .ok after := rfl

@[simp] theorem apply_modify (write : σ → σ) (before : σ) :
    apply (modify write : InPlace ε σ PUnit) before = .ok (write before) := rfl

@[simp] theorem apply_get_bind (onward : σ → InPlace ε σ Unit) (before : σ) :
    apply (get >>= onward) before = apply (onward before) before := rfl

@[simp] theorem apply_require_bind (holds : Bool) (reason : ε) (onward : Unit → InPlace ε σ Unit)
    (before : σ) :
    apply (require holds reason >>= onward) before =
      if holds then apply (onward ()) before else .error reason := by
  cases holds <;> rfl

@[simp] theorem apply_ofExcept_bind (result : Except ε α) (onward : α → InPlace ε σ Unit)
    (before : σ) :
    apply (ofExcept result >>= onward) before =
      result.bind fun value => apply (onward value) before := by
  cases result <;> rfl

/-- What is written behind a change is written on what comes of it. -/
@[simp] theorem apply_andModify (change : InPlace ε σ Unit) (write : σ → σ) (before : σ) :
    apply (do change; modify write) before = (apply change before).map write := by
  unfold apply
  change (match EStateM.bind change (fun _ => modify write) before with
    | .ok () after => Except.ok after
    | .error reason _ => .error reason) = _
  unfold EStateM.bind
  cases change before <;> rfl

/-- A change of a part comes to the whole with the changed part. -/
@[simp] theorem apply_part (read : σ → τ) (write : σ → τ → σ) (change : InPlace ε τ Unit)
    (whole : σ) : apply (part read write change) whole =
      (apply change (read whole)).map (write whole) := by
  unfold apply part
  cases change (read whole) <;> rfl

@[simp] theorem apply_present_none (absent : ε) (change : InPlace ε τ Unit) :
    apply (change.present absent) none = .error absent := rfl

@[simp] theorem apply_present_some (absent : ε) (change : InPlace ε τ Unit) (content : τ) :
    apply (change.present absent) (some content) = (apply change content).map some := by
  unfold apply present
  dsimp only
  cases change content <;> rfl

@[simp] theorem apply_adaptExcept (adapt : ε → δ) (change : InPlace ε σ Unit) (before : σ) :
    apply (EStateM.adaptExcept adapt change) before = (apply change before).mapError adapt := by
  unfold apply EStateM.adaptExcept
  cases change before <;> rfl

end Onboarding.InPlace
