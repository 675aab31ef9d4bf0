import Onboarding.Json.Reading
import Onboarding.Text.Blank

/-! # Who asks the service to generate

A request to generate a pipeline carries the token and the name of a user, where
they are known. The service can attribute it to someone when there is a token that
is not blank.
-/

namespace Onboarding

/-- The identity under which a pipeline is generated. -/
structure Caller where
  token : Option String
  user : Option String
  deriving DecidableEq, Repr, Inhabited

namespace Caller

variable {ν ε : Type} (source : Source ν ε)

/-- Nobody in particular. -/
def unknown : Caller := ⟨none, none⟩

/-- Whether the service can attribute a request to someone. -/
def isAuthenticated (caller : Caller) : Bool :=
  match caller.token with
  | some token => !Text.isBlank token
  | none => false

/-- Credentials are a record of two texts, each of which may be left out. -/
def shape : Record ν ε Caller where
  title := "Credentials"
  blank := unknown
  fields :=
    [.placed "access_token" (source.optional source.text) fun caller token =>
        { caller with token },
      .placed "github_user" (source.optional source.text) fun caller user => { caller with user }]

/-- Credentials are read from records of their shape. -/
def read : ν → Except ε Caller := source.record (shape source)

/-- Credentials that are read from a value of JSON. -/
def ofJson? : Json → Except Json.Misfit Caller := read Json.source

/-- Of the credentials, those that are there are written. -/
def toJson (caller : Caller) : Json :=
  .object (Json.optionalMember "access_token" caller.token .string ++
    Json.optionalMember "github_user" caller.user .string)

end Caller

end Onboarding
