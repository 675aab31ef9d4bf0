import Onboarding.Document.Wire

/-! # Validation by the service

An inquiry asks the service to validate a document in some scope; further data may
stand beside the document, but not in its place. The verdict that answers it says
whether the document is valid, and otherwise explains itself by findings on single
fields, by one summary, or not at all.
-/

namespace Onboarding

variable {ν ε : Type} (source : Source ν ε)

namespace Scope

/-- Read a scope, by its exact name. -/
def read : ν → Except ε Scope := source.choice names

/-- A part of the document is written as its name. -/
def toJson (scope : Scope) : Json := .string scope.name

end Scope

/-- What is asked of the service: to validate, in a scope, the data of which the
document is one member. -/
structure Inquiry where
  scope : Scope
  data : KeyMap Json
  deriving Inhabited

namespace Inquiry

/-- The inquiry about a document, with further data. -/
def about (scope : Scope) (document : Document) (extra : KeyMap Json) : Inquiry :=
  ⟨scope, extra.insert "config" document.toJson⟩

/-- An inquiry is a record of a part of the document and the data to check. -/
def shape : Record Json Json.Misfit Inquiry where
  title := "ValidationRequest"
  blank := ⟨.all, KeyMap.empty⟩
  fields :=
    [.mandatory "validation_type" (Scope.read Json.source) fun inquiry scope =>
        { inquiry with scope },
      .mandatory "data" (Json.readMap .ok) fun inquiry data => { inquiry with data }]

/-- An inquiry that is read from a value of JSON. -/
def ofJson? : Json → Except Json.Misfit Inquiry := Json.readRecord shape

/-- An inquiry is written with its part and its data. -/
def toJson (inquiry : Inquiry) : Json :=
  .object [("validation_type", inquiry.scope.toJson), ("data", Json.ofMap inquiry.data id)]

end Inquiry

/-- What is wrong with one field. -/
structure Finding where
  key : String
  field : Option String
  message : String
  deriving DecidableEq, Repr, Inhabited

namespace Finding

/-- A finding is a record of a key and a message, and perhaps a field. -/
def shape : Record ν ε Finding where
  title := "ValidationError"
  blank := ⟨"", none, ""⟩
  fields :=
    [.mandatory "key" source.text fun finding key => { finding with key },
      .defaulted "field" (source.optional source.text) fun finding field =>
        { finding with field },
      .mandatory "message" source.text fun finding message => { finding with message }]

/-- Findings are read from records of their shape. -/
def read : ν → Except ε Finding := source.record (shape source)

/-- A finding is written without the field if it has none. -/
def toJson (finding : Finding) : Json :=
  .object ([("key", .string finding.key)] ++ Json.optionalMember "field" finding.field .string ++
    [("message", .string finding.message)])

end Finding

/-- What the service makes of a document. -/
structure Verdict where
  valid : Bool
  findings : Option (List Finding)
  summary : Option String
  deriving DecidableEq, Repr, Inhabited

namespace Verdict

/-- The verdict on what is valid. -/
def accepted : Verdict := ⟨true, none, none⟩

/-- The verdict on what is not valid, summed up in a text. -/
def rejected (summary : String) : Verdict := ⟨false, none, some summary⟩

/-- A verdict is a record all of whose fields may be left out; then it is negative. The
summary answers to two keys. -/
def shape : Record ν ε Verdict where
  title := "ValidationState"
  blank := ⟨false, none, none⟩
  fields :=
    [.defaulted "valid" source.flag fun verdict valid => { verdict with valid },
      .defaulted "errors" (source.optional (source.list (Finding.read source)))
        fun verdict findings => { verdict with findings },
      (Field.defaulted "errorMessage" (source.optional source.text) fun verdict summary =>
        { verdict with summary }).also "message"]

/-- Verdicts are read from records of their shape. -/
def read : ν → Except ε Verdict := source.record (shape source)

/-- A verdict that is read from a value of JSON. -/
def ofJson? : Json → Except Json.Misfit Verdict := read Json.source

/-- A verdict is written without the findings and the summary that are not there. -/
def toJson (verdict : Verdict) : Json :=
  .object ([("valid", .bool verdict.valid)] ++
    Json.optionalMember "errors" verdict.findings (Json.ofList · Finding.toJson) ++
    Json.optionalMember "errorMessage" verdict.summary .string)

/-- The summary, or nothing. -/
def summaryText (verdict : Verdict) : String :=
  verdict.summary.getD ""

/-- What is told to the user: the message of every finding, or the summary when
there are none. -/
def messages (verdict : Verdict) : List String :=
  match verdict.findings with
  | some (finding :: others) => (finding :: others).map (·.message)
  | some [] | none => [verdict.summaryText]

end Verdict

end Onboarding
