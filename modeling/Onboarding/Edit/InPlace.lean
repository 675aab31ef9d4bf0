/-! # Changes made in place

A change is made in place, step by step, on the state itself. A step may refuse to go
on; then the steps before it have been made, and what they have made of the state
stays. So it is a matter of the order of its steps whether a change that is refused
leaves the state as it was.
-/

namespace Onboarding

/-- Steps made in place on a state `σ`, which may be refused for a reason `ε`. They leave
a state behind in either case. -/
abbrev InPlace (ε σ : Type) := EStateM ε σ

namespace InPlace

variable {ε σ τ : Type}

/-- Refuse to go on unless a condition holds. -/
def require (holds : Bool) (reason : ε) : InPlace ε σ Unit :=
  if holds then pure () else throw reason

/-- Change a part of a state in place. Whatever is left of the part stays in the
state, even if the change is refused. -/
def part (read : σ → τ) (write : σ → τ → σ) (change : InPlace ε τ Unit) : InPlace ε σ Unit :=
  fun whole =>
    match change (read whole) with
    | .ok () part => .ok () (write whole part)
    | .error reason part => .error reason (write whole part)

/-- Change in place what may be there, and refuse if nothing is. -/
def present (absent : ε) (change : InPlace ε τ Unit) : InPlace ε (Option τ) Unit :=
  fun held =>
    match held with
    | none => .error absent none
    | some content =>
      match change content with
      | .ok () content => .ok () (some content)
      | .error reason content => .error reason (some content)

/-- What a change leaves behind. -/
def leave (change : InPlace ε σ Unit) (before : σ) : σ :=
  match change before with
  | .ok () after => after
  | .error _ left => left

/-- What comes of a change made on a copy, which is thrown away when the change is
refused: the changed copy, or the reason for the refusal. -/
def apply (change : InPlace ε σ Unit) (before : σ) : Except ε σ :=
  match change before with
  | .ok () after => .ok after
  | .error reason _ => .error reason

end InPlace

end Onboarding
