import Onboarding.Url.Ipv4

/-! # Written numbers

The numbers in an address are written with the digits of a base, and reading the digits gives the
number again (`Onboarding.Ipv4.part?_toDigits`). Nothing but digits stands in a written number, and
a zero begins it only if it is zero.
-/

namespace Onboarding.Ipv4

/-- What is in a written number is the sign of a digit below the base. -/
theorem mem_toDigits {base number : Nat} {c : Char} (two : 1 < base)
    (member : c ∈ Nat.toDigits base number) : ∃ digit < base, c = digit.digitChar := by
  induction number using Nat.strongRecOn with
  | ind number ih =>
      rw [Nat.toDigits_eq_if two] at member
      split at member
      · next below => exact ⟨number, below, List.mem_singleton.mp member⟩
      · next above =>
          rcases List.mem_append.mp member with front | last
          · exact ih _ (Nat.div_lt_self (by omega) two) front
          · exact ⟨_, Nat.mod_lt _ (by omega), List.mem_singleton.mp last⟩

/-- Only zero is written with a zero in front. -/
theorem eq_zero_of_head?_toDigits {base number : Nat} (two : 1 < base) (atMost : base ≤ 16)
    (begins : (Nat.toDigits base number).head? = some '0') : number = 0 := by
  have digits : ∀ digit : Fin 16, digit.val.digitChar = '0' → digit.val = 0 := by decide
  induction number using Nat.strongRecOn with
  | ind number ih =>
      rw [Nat.toDigits_eq_if two] at begins
      split at begins
      · next below => exact digits ⟨number, by omega⟩ (Option.some.inj begins)
      · next above =>
          rw [List.head?_append, List.head?_eq_some_head Nat.toDigits_ne_nil, Option.some_or,
            ← List.head?_eq_some_head] at begins
          have upper := ih _ (Nat.div_lt_self (by omega) two) begins
          have := Nat.div_pos (by omega : base ≤ number) (by omega)
          omega

/-- The digits of a number are read as the number, by whatever knows the value of each. -/
theorem foldlM_toDigits {base : Nat} {value? : Char → Option Nat} (two : 1 < base)
    (reads : ∀ digit < base, value? digit.digitChar = some digit) (number : Nat) :
    (Nat.toDigits base number).foldlM (fun value c => (value? c).map (value * base + ·)) 0 =
      some number := by
  induction number using Nat.strongRecOn with
  | ind number ih =>
      rw [Nat.toDigits_eq_if two]
      split
      · next below => simp [reads number below]
      · next above =>
          rw [List.foldlM_append, ih _ (Nat.div_lt_self (by omega) two)]
          have lastDigit := reads (number % base) (Nat.mod_lt _ (by omega))
          simp [lastDigit, Nat.div_add_mod']

/-- A digit that is written is read back. -/
theorem hexValue?_digitChar {digit : Nat} (bound : digit < 16) :
    Text.hexValue? digit.digitChar = some digit := by
  have digits : ∀ digit : Fin 16, Text.hexValue? digit.val.digitChar = some digit.val := by decide
  exact digits ⟨digit, bound⟩

/-- A number is read back in its base. -/
theorem number?_toDigits {base : Nat} (two : 1 < base) (atMost : base ≤ 16) (number : Nat) :
    number? base (Nat.toDigits base number) = some number := by
  refine foldlM_toDigits two (fun digit below => ?_) number
  rw [hexValue?_digitChar (by omega), Option.filter_some, if_pos (decide_eq_true below)]

theorem hexNumber?_toDigits (number : Nat) :
    Text.hexNumber? (Nat.toDigits 16 number) = some number :=
  foldlM_toDigits (by decide) (fun _ => hexValue?_digitChar) number

/-- A part that does not begin with a zero is read as a decimal number. -/
theorem part?_of_head {digits : List Char} (present : digits ≠ [])
    (begins : digits.head? ≠ some '0') : part? digits = number? 10 digits := by
  fun_cases part? digits <;> simp_all

/-- A decimal number is read as itself in a part of a host. -/
theorem part?_toDigits (number : Nat) : part? (Nat.toDigits 10 number) = some number := by
  by_cases isZero : number = 0
  · subst isZero
    rfl
  · rw [part?_of_head Nat.toDigits_ne_nil fun begins =>
      isZero (eq_zero_of_head?_toDigits (by decide) (by decide) begins)]
    exact number?_toDigits (by decide) (by decide) number

end Onboarding.Ipv4
