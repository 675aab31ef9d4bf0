import Onboarding.Json.Value
import Onboarding.Text.Encoding
import Onboarding.Url.Basic

/-! # Requests and responses

What is sent to a server and what comes back. A request is only sent to a host, over
one of the two schemes of the web, and with header values that can be written on a
line. The way to the server may fail, and a body may break off.
-/

namespace Onboarding

/-- What is done with what a URL names. -/
inductive HttpMethod where
  | get
  | post
  deriving DecidableEq, Repr

namespace HttpMethod

/-- The word of a method in a request. -/
def word : HttpMethod → String
  | get => "GET"
  | post => "POST"

end HttpMethod

/-- A request over HTTP: what it asks for, with its headers and perhaps a value. -/
structure HttpRequest where
  method : HttpMethod
  url : Url
  headers : List (String × String)
  body : Option Json

/-- A response. A body that broke off is none. The encoding of a text in the body is the
one that the header for the content declares, if it declares one that is known. -/
structure HttpResponse where
  status : Nat
  body : Option (List UInt8)
  encoding : Text.Encoding := .utf8

/-- The way to a server: what comes back for a request, if anything does. -/
abbrev Transport := HttpRequest → Option HttpResponse

namespace HttpRequest

/-- The schemes that requests are sent over. -/
def schemes : List (List Char) := ["http".toList, "https".toList]

/-- Whether a header value can be written on a line. -/
def isHeaderValue (value : String) : Bool :=
  value.toList.all fun c => c == '\t' || (0x20 ≤ c.toNat && c.toNat != 0x7F)

/-- Whether a request can be sent: over one of the schemes, to a host, with headers that can
be written. -/
def isSendable (request : HttpRequest) : Bool :=
  schemes.contains request.url.scheme && request.url.target.host?.isSome &&
    request.headers.all (isHeaderValue ·.2)

/-- What a request asks the server for: the path and the query. -/
def target (request : HttpRequest) : List Char :=
  request.url.target.path ++ Url.writePart '?' request.url.query

end HttpRequest

namespace HttpResponse

/-- The status of a response that has what was asked for. -/
def okStatus : Nat := 200

/-- The status of a response that has nothing. -/
def notFoundStatus : Nat := 404

/-- Whether the status of a response tells of success. -/
def isSuccess (response : HttpResponse) : Bool :=
  200 ≤ response.status && response.status < 300

/-- The text in the body. -/
def text? (response : HttpResponse) : Option String :=
  response.body.map response.encoding.decodeText

end HttpResponse

end Onboarding
