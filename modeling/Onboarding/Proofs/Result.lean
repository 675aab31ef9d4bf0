/-! # Steps that may fail

A chain of steps comes to a value exactly if each of its steps does.
-/

namespace Onboarding

variable {ε α β : Type} {result : Except ε α}

/-- A result that is gone on with succeeds if both steps do. -/
theorem bind_eq_ok_iff {onward : α → Except ε β} {after : β} :
    (result >>= onward) = .ok after ↔ ∃ value, result = .ok value ∧ onward value = .ok after := by
  cases result with
  | error _ =>
      constructor
      · intro comesTo
        cases comesTo
      · rintro ⟨_, ⟨⟩, _⟩
  | ok value =>
      refine ⟨fun comesTo => ⟨value, rfl, comesTo⟩, ?_⟩
      rintro ⟨_, ⟨⟩, comesTo⟩
      exact comesTo

/-- A result that is mapped succeeds if it does. -/
theorem map_eq_ok_iff {onward : α → β} {after : β} :
    result.map onward = .ok after ↔ ∃ value, result = .ok value ∧ after = onward value := by
  cases result with
  | error error => simp [Except.map]
  | ok value => simp [Except.map, eq_comm]

/-- A result that is mapped fails with the same error. -/
theorem map_eq_error_iff {onward : α → β} {error : ε} :
    result.map onward = .error error ↔ result = .error error := by
  cases result with
  | error _ => simp [Except.map]
  | ok _ => simp [Except.map]

end Onboarding
