import Onboarding.Proofs.Text.Blank
import Onboarding.Text.Quoting

/-! # What quoting keeps

The quotes around a text do not hide it: a text that is written without quotes holds no
quote itself. So texts that are written alike are alike when they are trimmed, and what is
longer than the trimmed text is that text between quotes
(`Onboarding.Text.quoting_keeps_trimmed_texts`).
-/

namespace Onboarding.Text

/-- A text holds one of the characters that are unsafe without quotes. -/
def HoldsSpecial (text : String) : Prop :=
  ∃ c ∈ text.toList, c ∈ specialCharacters

theorem needsQuotes_iff {text : String} : needsQuotes text = true ↔ HoldsSpecial text := by
  simp [needsQuotes, HoldsSpecial]

/-- A text between quotes asks for quotes. -/
theorem needsQuotes_between (text : String) : needsQuotes ("'" ++ text ++ "'") = true := by
  have isSpecial : specialCharacters.contains '\'' = true := by decide
  unfold needsQuotes
  rw [String.toList_append, String.toList_append, List.append_assoc, List.any_append]
  have begins : "'".toList = ['\''] := rfl
  rw [begins, List.any_cons, isSpecial]
  rfl

/-- Between quotes a text is known. -/
theorem between_inj {left right : String} (same : "'" ++ left ++ "'" = "'" ++ right ++ "'") :
    left = right := by
  have chars := congrArg String.toList same
  simp only [String.toList_append, List.append_cancel_left_eq, List.append_cancel_right_eq] at chars
  exact String.toList_inj.mp chars

/-- A text between quotes begins and ends with a quote. -/
theorem isBare_between (text : String) : IsBare ("'" ++ text ++ "'") := by
  have notWhite : isWhite '\'' = false := by decide
  have chars : ("'" ++ text ++ "'").toList = ['\''] ++ text.toList ++ ['\''] := by
    rw [String.toList_append, String.toList_append]
    rfl
  unfold IsBare
  rw [chars]
  constructor
  · intro first isFirst
    rw [List.append_assoc, List.singleton_append, List.head?_cons, Option.mem_some_iff] at isFirst
    exact isFirst ▸ notWhite
  · intro last isLast
    rw [List.getLast?_concat, Option.mem_some_iff] at isLast
    exact isLast ▸ notWhite

/-- No white space stands around what is quoted. -/
theorem isBare_quoted (text : String) : IsBare (quoted text) := by
  unfold quoted
  dsimp only
  split
  · exact isBare_between (trim text)
  · exact isBare_trim text

/-- Nothing but the white space around a text is lost when it is quoted. -/
theorem quoted_eq_quoted_iff {left right : String} :
    quoted left = quoted right ↔ trim left = trim right := by
  refine ⟨fun same => ?_, fun same => by unfold quoted; rw [same]⟩
  unfold quoted at same
  dsimp only at same
  cases leftQuotes : needsQuotes (trim left) with
  | false =>
      cases rightQuotes : needsQuotes (trim right) with
      | false => simpa [leftQuotes, rightQuotes] using same
      | true =>
          have isQuoted : trim left = "'" ++ trim right ++ "'" := by
            simpa [leftQuotes, rightQuotes] using same
          rw [isQuoted, needsQuotes_between] at leftQuotes
          cases leftQuotes
  | true =>
      cases rightQuotes : needsQuotes (trim right) with
      | false =>
          have isQuoted : "'" ++ trim left ++ "'" = trim right := by
            simpa [leftQuotes, rightQuotes] using same
          rw [← isQuoted, needsQuotes_between] at rightQuotes
          cases rightQuotes
      | true =>
          rw [leftQuotes, rightQuotes, if_pos rfl, if_pos rfl] at same
          exact between_inj same

/-- Quoting loses no more of texts that may be absent. -/
theorem map_quoted_eq_iff {left right : Option String} :
    left.map quoted = right.map quoted ↔ left.map trim = right.map trim := by
  cases left with
  | none => cases right <;> simp
  | some left =>
      cases right with
      | none => simp
      | some right => simp [quoted_eq_quoted_iff]

/-- Quotes are two characters, of one byte each. -/
theorem length_between (text : String) :
    ("'" ++ text ++ "'").length = text.length + 2 ∧
      ("'" ++ text ++ "'").utf8ByteSize = text.utf8ByteSize + 2 := by
  have quote : "'".length = 1 ∧ "'".utf8ByteSize = 1 := by decide
  rw [String.length_append, String.length_append, String.utf8ByteSize_append,
    String.utf8ByteSize_append, quote.1, quote.2]
  omega

theorem between_ne (text : String) : "'" ++ text ++ "'" ≠ text := by
  intro same
  have longer := (length_between text).1
  rw [same] at longer
  omega

/-- A text with a special character is trimmed and put between quotes. -/
theorem quoted_of_holdsSpecial {text : String} (special : HoldsSpecial (trim text)) :
    quoted text = "'" ++ trim text ++ "'" := by
  rw [quoted]
  exact if_pos (needsQuotes_iff.mpr special)

/-- Any other text is trimmed only. -/
theorem quoted_of_not_holdsSpecial {text : String} (plain : ¬HoldsSpecial (trim text)) :
    quoted text = trim text := by
  rw [quoted]
  exact if_neg (mt needsQuotes_iff.mp plain)

/-- Quoted texts are the same exactly if the trimmed ones are, and there is never white space around
them. A quoted text is longer than the trimmed one, in characters and in bytes, exactly if the
trimmed one holds a special character; then it is the trimmed one between two quotes, and otherwise
the trimmed one itself. -/
theorem quoting_keeps_trimmed_texts (text : String) :
    (∀ other, quoted text = quoted other ↔ trim text = trim other) ∧
      IsBare (quoted text) ∧
      ((trim text).length < (quoted text).length ↔ HoldsSpecial (trim text)) ∧
      ((trim text).utf8ByteSize < (quoted text).utf8ByteSize ↔ HoldsSpecial (trim text)) ∧
      (quoted text = "'" ++ trim text ++ "'" ↔ HoldsSpecial (trim text)) ∧
      (quoted text = trim text ↔ ¬HoldsSpecial (trim text)) := by
  refine ⟨fun other => quoted_eq_quoted_iff, isBare_quoted text, ?_⟩
  obtain ⟨characters, bytes⟩ := length_between (trim text)
  have different := between_ne (trim text)
  by_cases special : HoldsSpecial (trim text)
  · rw [quoted_of_holdsSpecial special, characters, bytes]
    simp [special, different]
  · rw [quoted_of_not_holdsSpecial special]
    simp [special, different.symm]

end Onboarding.Text
