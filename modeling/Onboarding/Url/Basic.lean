import Onboarding.Url.Host
import Onboarding.Url.Path

/-! # URLs

A URL has a scheme, perhaps a host with a user and a port, a path, and perhaps a query
and a fragment. The path is a list of segments, or else, for a scheme that leads to no
host, a text that is not looked into. All parts are kept as they are written.
-/

namespace Onboarding

/-- The user that a URL is for. -/
structure UrlUser where
  name : List Char
  password : List Char
  deriving DecidableEq, Repr

/-- Where a URL leads: a host, with a user and a port if they are given. -/
structure Authority where
  user : Option UrlUser
  host : Host
  port : Option Nat
  deriving DecidableEq, Repr

/-- What stands behind the scheme of a URL. -/
inductive UrlTarget where
  | hosted (authority : Authority) (segments : List Path.Segment)
  | rooted (segments : List Path.Segment)
  /-- A text that is not looked into. -/
  | plain (text : List Char)
  deriving DecidableEq, Repr

/-- A URL in its parts. The query and the fragment stand without their marks. -/
structure Url where
  scheme : List Char
  target : UrlTarget
  query : Option (List Char)
  fragment : Option (List Char)
  deriving DecidableEq, Repr

/-- The text of a user, with the sign behind it. -/
def UrlUser.write (user : UrlUser) : List Char :=
  user.name ++ (if user.password = [] then [] else ':' :: user.password) ++ ['@']

/-- An authority with its user in front and its port behind, if there are any. -/
def Authority.write (authority : Authority) : List Char :=
  (authority.user.map UrlUser.write).getD [] ++ authority.host.write ++
    match authority.port with
    | some port => ':' :: Nat.toDigits 10 port
    | none => []

namespace UrlTarget

/-- The path of a target as it is written. -/
def path : UrlTarget → List Char
  | hosted _ segments => Path.write segments
  | rooted segments => Path.write segments
  | plain text => text

/-- The host of a target, if it has one that is not empty. -/
def host? : UrlTarget → Option Host
  | hosted authority _ => if authority.host = .empty then none else some authority.host
  | rooted _ | plain _ => none

/-- The port of a target, if one is given. -/
def port? : UrlTarget → Option Nat
  | hosted authority _ => authority.port
  | rooted _ | plain _ => none

/-- The text behind the colon of the scheme. A rooted path that begins with two slashes
gets a segment of one dot in front, so that it is not taken for a host. -/
def write : UrlTarget → List Char
  | hosted authority segments => '/' :: '/' :: authority.write ++ Path.write segments
  | rooted segments =>
    match Path.write segments with
    | '/' :: '/' :: rest => '/' :: '.' :: '/' :: '/' :: rest
    | text => text
  | plain text => text

end UrlTarget

namespace Url

/-- The text of a part with the mark in front of it, if there is such a part. -/
def writePart (mark : Char) (part : Option (List Char)) : List Char :=
  match part with
  | some text => mark :: text
  | none => []

/-- A URL as it is written. -/
def write (url : Url) : List Char :=
  url.scheme ++ ':' :: url.target.write ++ writePart '?' url.query ++ writePart '#' url.fragment

/-- The text of a URL. -/
def text (url : Url) : String :=
  String.ofList url.write

/-- The URL with more parameters in its query. They stand behind those it has. -/
def appendParameters (url : Url) (parameters : List Char) : Url :=
  { url with
    query := some (
      match url.query with
      | none | some [] => parameters
      | some query => query ++ '&' :: parameters) }

end Url

end Onboarding
