import Onboarding.Proofs.Url.Reading
import Onboarding.Url.Form

/-! # Parameters behind a query

Parameters are written with characters that may stand in every query. So a settled URL stays settled
when parameters are put behind its query, and what is read from the query then is what was read
before, followed by the parameters (`Onboarding.Url.parse_appendParameters`).
-/

namespace Onboarding

namespace Form

/-! ## Written parameters -/

/-- A text of a form needs no encoding in a query. -/
theorem isDone_writeText (kind : SchemeKind) (text : String) :
    Percent.IsDone (Url.inQueryOf kind) (writeText text) := by
  intro c member
  rcases mem_writeText_cases member with rfl | ⟨plain, ascii⟩ | encoded
  · exact ⟨Url.inQueryOf_eq_false (by decide), by decide⟩
  · refine ⟨Url.inQueryOf_eq_false ?_, ascii⟩
    exact Text.char_cases_of_ascii (motive := fun c => isEncoded c = false →
      Percent.inSpecialQuery c = false) (by decide +kernel) ascii plain
  · exact ⟨Url.inQueryOf_stands kind c encoded, Percent.toNat_lt_of_isEncodedChar encoded⟩

/-- A pair of a form needs no encoding in a query. -/
theorem isDone_writePair (kind : SchemeKind) (pair : String × String) :
    Percent.IsDone (Url.inQueryOf kind) (writePair pair) :=
  (isDone_writeText kind pair.1).append (List.forall_mem_cons.mpr
    ⟨⟨Url.inQueryOf_eq_false (by decide), by decide⟩, isDone_writeText kind pair.2⟩)

/-- Nothing in parameters is left to encode in a query. -/
theorem isDone_write (kind : SchemeKind) (pairs : List (String × String)) :
    Percent.IsDone (Url.inQueryOf kind) (write pairs) := by
  induction pairs with
  | nil => exact fun c member => absurd member List.not_mem_nil
  | cons pair pairs ih =>
      cases pairs with
      | nil => exact isDone_writePair kind pair
      | cons next others =>
          rw [write]
          · exact (isDone_writePair kind pair).append (List.forall_mem_cons.mpr
              ⟨⟨Url.inQueryOf_eq_false (by decide), by decide⟩, ih⟩)
          · exact List.cons_ne_nil _ _

end Form

namespace Url

/-! ## URLs with parameters -/

/-- What is read from a query with parameters put behind it. -/
theorem parse_appendParameters (url : Url) (pairs : List (String × String)) :
    (url.appendParameters (Form.write pairs)).query.map Form.parse =
      some ((url.query.map Form.parse).getD [] ++ pairs) := by
  have nothing : Form.parse [] = [] := rfl
  unfold appendParameters
  cases url.query with
  | none => simp [Form.parse_write]
  | some query =>
      cases query with
      | nil => simp [Form.parse_write, nothing]
      | cons first others =>
          have behind := Form.parse_append (first :: others) (Form.write pairs)
          rw [Form.parse_write] at behind
          simpa using behind

/-- A settled URL stays so with parameters appended. -/
theorem IsSettled.appendParameters {url : Url} (settled : url.IsSettled)
    (pairs : List (String × String)) : (url.appendParameters (Form.write pairs)).IsSettled := by
  have parameters := Form.isDone_write url.kind pairs
  refine ⟨settled.scheme, settled.target, fun query isQuery => ?_, settled.fragment⟩
  cases Option.some.inj isQuery
  split
  · exact parameters
  · exact parameters
  · next query _ given =>
      refine Percent.IsDone.append (settled.query query given) ?_
      exact List.forall_mem_cons.mpr ⟨⟨inQueryOf_eq_false (by decide), by decide⟩, parameters⟩

end Url

end Onboarding
