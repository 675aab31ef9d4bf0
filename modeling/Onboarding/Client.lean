import Onboarding.Http
import Onboarding.Json.DraftReading
import Onboarding.Service
import Onboarding.Url.Form
import Onboarding.Url.Reading

/-! # The service over the web

The service has a base address. Validations go to one resource under it, and all else
goes to another, where the query tells a conversion, a generation and a lookup apart.
A verdict counts whatever the status of its response is; a text counts with a status
of success, a generation only with the plain one; a lookup is answered by its status
alone.
-/

namespace Onboarding

/-- The service at a base address. -/
structure Client where
  base : Url
  deriving DecidableEq, Repr

namespace Client

/-- The service at the address that a text gives. -/
def ofText (address : String) : Except ServiceError Client :=
  ((Url.parse address).mapError .invalidEndpoint).map Client.mk

/-! ## Requests -/

/-- The resource for validations. -/
def validations : List Char := "config-validations".toList

/-- The resource for everything else. -/
def configurations : List Char := "configs".toList

/-- A text without the slashes at its end. -/
def trimSlashes (text : List Char) : List Char :=
  (text.reverse.dropWhile (· == '/')).reverse

/-- Where a resource stands: behind the base, slashes at the end of which are dropped, as
one text that is read again. The parameters are appended to the query. -/
def endpoint (client : Client) (resource : List Char) (parameters : List (String × String)) :
    Except UrlError Url := do
  let url ← Url.ofChars (Url.significant (trimSlashes client.base.write ++ '/' :: resource))
  return if parameters.isEmpty then url else url.appendParameters (Form.write parameters)

/-- The resource that a call is about. -/
def resource : Call → List Char
  | .validate _ _ _ => validations
  | .convert _ | .generate _ _ _ | .lookup _ _ => configurations

/-- The parameters of a call, in the order in which they are written. -/
def parameters : Call → List (String × String)
  | .validate _ _ _ => []
  | .convert _ => [("conversionOnly", "true")]
  | .generate _ _ pullRequest => [("generatePR", toString pullRequest)]
  | .lookup org repo => [("org", org), ("repo", repo)]

/-- A header that is sent when it has a value. -/
def optionalHeader (name : String) (value : Option String) : List (String × String) :=
  match value with
  | some value => [(name, value)]
  | none => []

/-- The headers of a call. Credentials are sent with a generation only. -/
def headers : Call → List (String × String)
  | .validate _ _ _ | .convert _ => [("accept", "*/*"), ("content-type", "application/json")]
  | .generate _ caller _ =>
    [("accept", "application/json"), ("content-type", "application/json")] ++
      optionalHeader "access_token" caller.token ++ optionalHeader "github_user" caller.user
  | .lookup _ _ => [("accept", "*/*")]

/-- The value that a call carries, if it carries one. -/
def body : Call → Option Json
  | .validate scope document extra => some (Inquiry.about scope document extra).toJson
  | .convert document | .generate document _ _ => some document.toJson
  | .lookup _ _ => none

/-- The request of a call. Calls that carry a value are posted. -/
def request (client : Client) (call : Call) : Except ServiceError HttpRequest := do
  let url ← (client.endpoint (resource call) (parameters call)).mapError .invalidEndpoint
  return {
    method := if (body call).isSome then .post else .get
    url
    headers := headers call
    body := body call }

/-! ## Responses -/

/-- The verdict in a response. Its bytes are read as they are, whatever encoding is
declared, and what is passed over need not be a text. -/
def verdict (response : HttpResponse) : Except ServiceError Verdict :=
  match response.body with
  | none => .error .decodeFailed
  | some bytes =>
    (Json.readBytes? (Verdict.read Json.Draft.source) bytes).mapError fun _ => .decodeFailed

/-- The text in a response with a status that is expected. -/
def text (isExpected : HttpResponse → Bool) (response : HttpResponse) :
    Except ServiceError String :=
  if isExpected response then
    match response.text? with
    | some text => .ok text
    | none => .error .decodeFailed
  else .error (.unexpectedStatus response.status)

/-- Whether a response is about something that exists. -/
def existence (response : HttpResponse) : Except ServiceError Bool :=
  if response.status = HttpResponse.notFoundStatus then .ok false
  else if response.status = HttpResponse.okStatus then .ok true
  else .error (.unexpectedStatus response.status)

/-! ## The service -/

/-- What comes back for a call. A request that cannot be sent, or is not answered, fails. -/
def exchange (client : Client) (transport : Transport) (call : Call) :
    Except ServiceError HttpResponse := do
  let request ← client.request call
  if request.isSendable then
    match transport request with
    | some response => return response
    | none => throw .requestFailed
  else throw .requestFailed

/-- The service at a base address, over a way to it that may depend on the calls made
before. -/
def service (client : Client) (transport : List Call → Transport) : Service where
  validate := fun before scope document extra => do
    verdict (← client.exchange (transport before) (.validate scope document extra))
  convert := fun before document => do
    text (·.isSuccess) (← client.exchange (transport before) (.convert document))
  generate := fun before document caller pullRequest => do
    text (·.status = HttpResponse.okStatus)
      (← client.exchange (transport before) (.generate document caller pullRequest))
  lookup := fun before org repo => do
    existence (← client.exchange (transport before) (.lookup org repo))

end Client

end Onboarding
