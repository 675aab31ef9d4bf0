import Mathlib.Data.List.DropRight
import Onboarding.Text.Blank

/-! # Blank texts and trimming

A text is blank exactly if nothing remains when it is trimmed. What remains begins and ends
with characters that are not white, and it does not depend on white space that is put around a
text (`Onboarding.Text.trimChars_padded`). So nothing is white at the ends of a text that was
trimmed (`Onboarding.Text.isBare_trim`).
-/

namespace Onboarding.Text

theorem trimEndChars_eq_rdropWhile (chars : List Char) :
    trimEndChars chars = chars.rdropWhile isWhite := by
  induction chars with
  | nil => rfl
  | cons c rest ih =>
      rw [trimEndChars, ih, List.rdropWhile, List.rdropWhile, List.reverse_cons,
        List.dropWhile_append]
      cases rest.reverse.dropWhile isWhite with
      | nil =>
          rw [List.dropWhile_cons]
          cases isWhite c <;> rfl
      | cons last others =>
          rw [List.isEmpty_cons, if_neg Bool.false_ne_true, List.reverse_append]
          cases reversed : (last :: others).reverse with
          | nil => exact absurd reversed (List.reverse_ne_nil_iff.mpr (List.cons_ne_nil _ _))
          | cons first kept => rfl

/-- Nothing is left if there is nothing but white space. -/
theorem trimEndChars_eq_nil_iff {chars : List Char} :
    trimEndChars chars = [] ↔ ∀ c ∈ chars, isWhite c = true := by
  rw [trimEndChars_eq_rdropWhile, List.rdropWhile_eq_nil_iff]

/-- Nothing is left at either end if there is nothing but white space. -/
theorem trimChars_eq_nil_iff {chars : List Char} :
    trimChars chars = [] ↔ ∀ c ∈ chars, isWhite c = true := by
  rw [trimChars, trimEndChars_eq_nil_iff]
  induction chars with
  | nil => simp
  | cons c rest ih =>
      rw [List.dropWhile_cons, List.forall_mem_cons]
      split
      · rename_i white
        rw [ih]
        exact (and_iff_right white).symm
      · rw [List.forall_mem_cons]

/-- A text is blank exactly if nothing remains when it is trimmed. -/
theorem isEmpty_trim (text : String) : (trim text).isEmpty = isBlank text := by
  rw [Bool.eq_iff_iff, trim, isBlank, List.all_eq_true, ← trimChars_eq_nil_iff]
  simp

/-- What trimming leaves begins with a character that is not white. -/
theorem isWhite_head_trimChars {chars rest : List Char} {first : Char}
    (left : trimChars chars = first :: rest) : isWhite first = false := by
  rw [trimChars, trimEndChars_eq_rdropWhile] at left
  obtain ⟨dropped, isSplit⟩ := List.rdropWhile_prefix isWhite (chars.dropWhile isWhite)
  rw [left] at isSplit
  have begins := List.head?_dropWhile_not isWhite chars
  rw [← isSplit] at begins
  exact begins

/-- What trimming leaves ends with a character that is not white. -/
theorem isWhite_last_trimChars {chars front : List Char} {last : Char}
    (left : trimChars chars = front ++ [last]) : isWhite last = false := by
  rw [trimChars, trimEndChars_eq_rdropWhile] at left
  have present : (chars.dropWhile isWhite).rdropWhile isWhite ≠ [] := by
    rw [left]
    exact List.concat_ne_nil _ _
  have ends := List.rdropWhile_last_not isWhite _ present
  simpa [left] using ends

theorem trimChars_of_not_white {chars : List Char} (bare : ∀ c ∈ chars, isWhite c = false) :
    trimChars chars = chars := by
  have notDropped : chars.dropWhile isWhite = chars :=
    List.dropWhile_eq_self_iff.mpr fun _ =>
      Bool.eq_false_iff.mp (bare _ (List.getElem_mem _))
  rw [trimChars, trimEndChars_eq_rdropWhile, notDropped, List.rdropWhile_eq_self_iff]
  exact fun present => Bool.eq_false_iff.mp (bare _ (List.getLast_mem present))

/-- White space put around characters is taken off again. -/
theorem trimChars_padded {before after : List Char} (chars : List Char)
    (whiteBefore : ∀ c ∈ before, isWhite c = true) (whiteAfter : ∀ c ∈ after, isWhite c = true) :
    trimChars (before ++ chars ++ after) = trimChars chars := by
  have reversedWhite : ∀ c ∈ after.reverse, isWhite c = true :=
    fun c member => whiteAfter c (List.mem_reverse.mp member)
  rw [trimChars, trimChars, List.append_assoc, List.dropWhile_append_of_pos whiteBefore,
    List.dropWhile_append, trimEndChars_eq_rdropWhile, trimEndChars_eq_rdropWhile]
  split
  · rename_i nothing
    have allWhite := List.dropWhile_eq_nil_iff.mpr whiteAfter
    rw [List.isEmpty_iff.mp nothing, allWhite]
  · rw [List.rdropWhile, List.reverse_append, List.dropWhile_append_of_pos reversedWhite]
    rfl

/-- Trimming twice is trimming once. -/
theorem trimChars_trimChars (chars : List Char) :
    trimChars (trimChars chars) = trimChars chars := by
  cases left : trimChars chars with
  | nil => rfl
  | cons first rest =>
      have ends : (first :: rest).rdropWhile isWhite = first :: rest := by
        rw [← left, trimChars, trimEndChars_eq_rdropWhile, List.rdropWhile_idempotent]
      have begins := Bool.eq_false_iff.mp (isWhite_head_trimChars left)
      rw [trimChars, List.dropWhile_cons_of_neg begins, trimEndChars_eq_rdropWhile, ends]

/-- A text that is trimmed has nothing left to trim. -/
theorem trim_trim (text : String) : trim (trim text) = trim text := by
  rw [trim, trim, String.toList_ofList, trimChars_trimChars]

/-- A text has no white space around it: if it has characters, the first and the last of them are
not white. -/
def IsBare (text : String) : Prop :=
  (∀ first ∈ text.toList.head?, isWhite first = false) ∧
    ∀ last ∈ text.toList.getLast?, isWhite last = false

instance (text : String) : Decidable (IsBare text) :=
  decidable_of_iff
    (text.toList.head?.all (!isWhite ·) = true ∧ text.toList.getLast?.all (!isWhite ·) = true)
    (by simp only [IsBare, Option.all_eq_true, Bool.not_eq_true', Option.mem_def])

/-- What is trimmed is bare. -/
theorem isBare_trim (text : String) : IsBare (trim text) := by
  unfold IsBare trim
  rw [String.toList_ofList]
  constructor
  · intro first isFirst
    obtain ⟨rest, isSplit⟩ := List.head?_eq_some_iff.mp isFirst
    exact isWhite_head_trimChars isSplit
  · intro last isLast
    obtain ⟨front, isSplit⟩ := List.getLast?_eq_some_iff.mp isLast
    exact isWhite_last_trimChars isSplit

theorem isBare_trimOption (text : Option String) : IsBare (trimOption text) := by
  cases text with
  | none => decide
  | some value => exact isBare_trim value

/-- Trimming makes a text neither blank nor otherwise. -/
theorem isBlank_trim (text : String) : isBlank (trim text) = isBlank text := by
  rw [← isEmpty_trim, trim_trim, isEmpty_trim]

end Onboarding.Text
