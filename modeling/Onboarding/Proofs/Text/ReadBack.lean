import Onboarding.Proofs.Text.Blank
import Onboarding.Proofs.Yaml.CoreScalar
import Onboarding.Text.Quoting

/-! # Quoted texts as scalars

A text is quoted so that a value can hold it. What a reader of the value finds there is the
trimmed text again, under conditions that depend on how it was written
(`Onboarding.Text.quoted_reads_back_iff`). Between quotes a line end is folded and a control
character is refused. Without quotes the text itself stands there, and the core schema may take
it for a number, a truth value or nothing (`Onboarding.Text.quoted_word_is_boolean`): quotes are
put where a character asks for them, not where a word does.
-/

namespace Onboarding.Text

open Onboarding.Yaml

/-- What stands between two words is white. -/
theorem isGap_of_not_white {c : Char} (bare : isWhite c = false) : isGap c = false := by
  by_contra gap
  simp only [isGap, Yaml.isBlank, endsLine, Bool.not_eq_false, Bool.or_eq_true,
    decide_eq_true_eq] at gap
  rcases gap with (rfl | rfl) | (rfl | rfl) <;> exact absurd bare (by decide)

/-- A text that needs no quotes holds none of the characters that mean something in markup. -/
theorem not_mem_indicators {value : String} (plain : needsQuotes value = false) :
    ∀ c ∈ value.toList, c ∉ Scan.indicators := by
  intro c member indicator
  have allSpecial : Scan.indicators.all (specialCharacters.contains ·) = true := by decide
  have notSpecial := List.any_eq_false.mp plain c member
  exact notSpecial (List.all_eq_true.mp allSpecial c indicator)

/-- A trimmed text that needs no quotes is a scalar by itself exactly if each of its characters
may be written plainly in one line and the core schema takes it for a text. -/
theorem ofText?_trim {text : String} (plain : needsQuotes (trim text) = false) :
    CoreScalar.ofText? (trim text) = some ⟨.text, trim text⟩ ↔
      (∀ c ∈ (trim text).toList, Yaml.isBlank c = true ∨ isPlainChar c = true) ∧
        coreType (trim text) = .text := by
  cases left : trimChars text.toList with
  | nil =>
      have isEmpty : trim text = "" := by rw [trim, left]
      rw [isEmpty]
      exact iff_of_false (by decide) fun both => absurd both.2 (by decide)
  | cons first rest =>
      have chars : (trim text).toList = first :: rest := by rw [trim, left, String.toList_ofList]
      have begins : isGap first = false := isGap_of_not_white (isWhite_head_trimChars left)
      have isSplit : first :: rest = (first :: rest).dropLast ++ [rest.getLastD first] := by
        rw [← List.getLast_eq_getLastD (List.cons_ne_nil first rest), List.dropLast_append_getLast]
      have ends : isGap (rest.getLastD first) = false :=
        isGap_of_not_white (isWhite_last_trimChars (left.trans isSplit))
      exact CoreScalar.ofText?_plain chars (not_mem_indicators plain) begins ends

/-- A trimmed text that holds a special character is put between quotes, and one that holds no
quote itself is read back from there exactly if its characters may stand in a line between
quotes. Any other text is only trimmed, and is read back exactly if its characters may be written
plainly in a line and no word of the core schema is made of them. -/
theorem quoted_reads_back_iff (text : String) :
    (needsQuotes (trim text) = true →
      quoted text = "'" ++ trim text ++ "'" ∧
        ('\'' ∉ (trim text).toList →
          (CoreScalar.ofText? (quoted text) = some ⟨.text, trim text⟩ ↔
            ∀ c ∈ (trim text).toList, isQuotable c = true))) ∧
      (needsQuotes (trim text) = false →
        quoted text = trim text ∧
          (CoreScalar.ofText? (quoted text) = some ⟨.text, trim text⟩ ↔
            (∀ c ∈ (trim text).toList, Yaml.isBlank c = true ∨ isPlainChar c = true) ∧
              coreType (trim text) = .text)) := by
  refine ⟨fun special => ?_, fun plain => ?_⟩
  · have between : quoted text = "'" ++ trim text ++ "'" := by
      rw [quoted]
      exact if_pos special
    refine ⟨between, fun noQuote => ?_⟩
    rw [between]
    have readsBack := CoreScalar.ofText?_between (trim text)
    rwa [doubled_of_no_quote noQuote, String.ofList_toList] at readsBack
  · have bare : quoted text = trim text := by
      rw [quoted]
      exact if_neg (Bool.eq_false_iff.mp plain)
    rw [bare]
    exact ⟨rfl, ofText?_trim plain⟩

/-- A name of two words is read back from between quotes, and one of a single word without. -/
theorem quoted_names_read_back :
    (needsQuotes (trim " my image ") = true ∧ '\'' ∉ (trim " my image ").toList ∧
        CoreScalar.ofText? (quoted " my image ") = some ⟨.text, trim " my image "⟩) ∧
      (needsQuotes (trim " stable ") = false ∧
        CoreScalar.ofText? (quoted " stable ") = some ⟨.text, trim " stable "⟩) := by
  have special : needsQuotes (trim " my image ") = true := by decide
  have noQuote : '\'' ∉ (trim " my image ").toList := by decide
  have plain : needsQuotes (trim " stable ") = false := by decide
  obtain ⟨_, readsBack⟩ := (quoted_reads_back_iff " my image ").1 special
  obtain ⟨_, readsBackPlain⟩ := (quoted_reads_back_iff " stable ").2 plain
  have quotable : (trim " my image ").toList.all isQuotable = true := by decide
  have plainChars : (trim " stable ").toList.all isPlainChar = true := by decide
  exact ⟨⟨special, noQuote, (readsBack noQuote).mpr (List.all_eq_true.mp quotable)⟩, plain,
    readsBackPlain.mpr ⟨fun c member => .inr (List.all_eq_true.mp plainChars c member), by decide⟩⟩

/-- A word that asks for no quotes is not read back if the core schema has a use for it. -/
theorem quoted_word_is_boolean :
    CoreScalar.ofText? (quoted "true") = some ⟨.boolean, "true"⟩ ∧
      CoreScalar.ofText? (quoted "true") ≠ some ⟨.text, trim "true"⟩ := by
  decide

end Onboarding.Text
