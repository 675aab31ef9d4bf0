/-! # Splitting at a separator

A text is split at every place where a character stands. There is always one part
more than there are separators, and putting the parts together again gives the text
(`joinWith_splitAt`).
-/

namespace Onboarding.Text

/-- The parts between separators. There is always one more part than separators. -/
def splitAt (separator : Char) : List Char → List (List Char)
  | [] => [[]]
  | c :: rest =>
    if c = separator then [] :: splitAt separator rest
    else
      match splitAt separator rest with
      | first :: others => (c :: first) :: others
      | [] => [[c]]

/-- Put parts together with a separator between two of them. -/
def joinWith (separator : Char) : List (List Char) → List Char
  | [] => []
  | [part] => part
  | part :: parts => part ++ separator :: joinWith separator parts

/-- There is always a part. -/
theorem splitAt_ne_nil (separator : Char) (chars : List Char) : splitAt separator chars ≠ [] := by
  fun_cases splitAt separator chars <;> simp

/-- A separator splits in two whatever stands around it. -/
theorem splitAt_append (separator : Char) (left right : List Char) :
    splitAt separator (left ++ separator :: right) =
      splitAt separator left ++ splitAt separator right := by
  induction left with
  | nil => simp [splitAt]
  | cons c left ih =>
    by_cases same : c = separator
    · simp [splitAt, same, ih]
    · rw [List.cons_append, splitAt, if_neg same, ih, splitAt, if_neg same]
      cases parts : splitAt separator left with
      | nil => exact absurd parts (splitAt_ne_nil separator left)
      | cons first others => rfl

/-- Without a separator there is one part. -/
theorem splitAt_of_not_mem {separator : Char} {chars : List Char} (absent : separator ∉ chars) :
    splitAt separator chars = [chars] := by
  induction chars with
  | nil => rfl
  | cons c rest ih =>
    rw [List.mem_cons, not_or] at absent
    rw [splitAt, if_neg (Ne.symm absent.1), ih absent.2]

/-- Parts that are joined again are the whole. -/
theorem joinWith_splitAt (separator : Char) (chars : List Char) :
    joinWith separator (splitAt separator chars) = chars := by
  induction chars with
  | nil => rfl
  | cons c rest ih =>
    cases parts : splitAt separator rest with
    | nil => exact absurd parts (splitAt_ne_nil separator rest)
    | cons first others =>
      rw [parts] at ih
      by_cases same : c = separator
      · rw [splitAt, if_pos same, parts, joinWith, ih, same]
        · rfl
        · simp
      · rw [splitAt, if_neg same, parts]
        cases others with
        | nil => simpa [joinWith] using ih
        | cons second others => simpa [joinWith] using ih

/-- Parts without separators come back when what they were put together to is split. -/
theorem splitAt_joinWith {separator : Char} {parts : List (List Char)} (nonempty : parts ≠ [])
    (absent : ∀ part ∈ parts, separator ∉ part) :
    splitAt separator (joinWith separator parts) = parts := by
  induction parts with
  | nil => exact absurd rfl nonempty
  | cons part parts ih =>
    have first := absent part List.mem_cons_self
    cases parts with
    | nil => exact splitAt_of_not_mem first
    | cons second others =>
      rw [joinWith, splitAt_append, splitAt_of_not_mem first,
        ih (List.cons_ne_nil _ _) fun part member => absent part (List.mem_cons_of_mem _ member)]
      · rfl
      · exact List.cons_ne_nil _ _

/-- What is joined consists of separators and of the characters of the parts. -/
theorem mem_joinWith {separator c : Char} {parts : List (List Char)}
    (member : c ∈ joinWith separator parts) : c = separator ∨ ∃ part ∈ parts, c ∈ part := by
  induction parts with
  | nil => cases member
  | cons part parts ih =>
    cases parts with
    | nil => exact .inr ⟨part, List.mem_cons_self, member⟩
    | cons second others =>
      rw [joinWith, List.mem_append, List.mem_cons] at member
      · rcases member with inPart | isSeparator | inOthers
        · exact .inr ⟨part, List.mem_cons_self, inPart⟩
        · exact .inl isSeparator
        · rcases ih inOthers with isSeparator | ⟨other, isOther, inOther⟩
          · exact .inl isSeparator
          · exact .inr ⟨other, List.mem_cons_of_mem _ isOther, inOther⟩
      · exact List.cons_ne_nil _ _

end Onboarding.Text
