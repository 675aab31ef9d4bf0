import Onboarding.Caller
import Onboarding.Url.Error
import Onboarding.Verdict

/-! # The configuration service, as its users see it

The service answers four kinds of calls: to validate a document, to render it, to
generate the pipeline, and to look up whether a repository has one already. Every
answer may be a failure instead. What a service does may depend on all calls that
were made before, so a service is a function of that history; a steady service
answers the same call always in the same way.
-/

namespace Onboarding

/-- Why a call to the service failed. -/
inductive ServiceError where
  | invalidEndpoint (reason : UrlError)
  | encodeFailed
  | requestFailed
  | unexpectedStatus (status : Nat)
  | decodeFailed
  deriving DecidableEq, Repr

/-- What is told of a call that failed. -/
def ServiceError.message : ServiceError → String
  | invalidEndpoint reason => "InvalidEndpoint: " ++ reason.message
  | encodeFailed => "EncodeFailed"
  | requestFailed => "RequestFailed"
  | unexpectedStatus status => "UnexpectedStatus: " ++ toString status
  | decodeFailed => "DecodeFailed"

/-- The data beside the document of a validation. -/
abbrev Extra := KeyMap Json

/-- A call to the service. -/
inductive Call where
  | validate (scope : Scope) (document : Document) (extra : Extra)
  | convert (document : Document)
  | generate (document : Document) (caller : Caller) (pullRequest : Bool)
  | lookup (org repo : String)
  deriving Inhabited

/-- What the service answers to each call, given the calls made before it, the
oldest first. -/
structure Service where
  validate : List Call → Scope → Document → Extra → Except ServiceError Verdict
  convert : List Call → Document → Except ServiceError String
  generate : List Call → Document → Caller → Bool → Except ServiceError String
  lookup : List Call → String → String → Except ServiceError Bool

/-- A service whose answers do not depend on what it was asked before. -/
structure Service.IsSteady (service : Service) : Prop where
  validate : ∀ before scope document extra,
    service.validate before scope document extra = service.validate [] scope document extra
  convert : ∀ before document, service.convert before document = service.convert [] document
  generate : ∀ before document caller pullRequest,
    service.generate before document caller pullRequest =
      service.generate [] document caller pullRequest
  lookup : ∀ before org repo, service.lookup before org repo = service.lookup [] org repo

end Onboarding
