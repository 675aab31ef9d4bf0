import Onboarding.Domain.Reading
import Onboarding.Url.Error
import Onboarding.Url.Ipv6
import Onboarding.Url.PercentEncoding

/-! # Hosts

The host of a URL of a well-known scheme is a domain name or an address; the host of
any other URL is taken as it is written, but for addresses of version six, which stand
in brackets everywhere.
-/

namespace Onboarding

/-- The host of a URL. -/
inductive Host where
  | empty
  | domain (name : List Char)
  | ipv4 (address : Ipv4)
  | ipv6 (address : Ipv6)
  /-- A host that is not looked into. -/
  | plain (text : List Char)
  deriving DecidableEq, Repr

namespace Host

/-- The text between brackets that begin a host, none unless they end it too. -/
def bracketed? : List Char → Option (Option (List Char))
  | '[' :: rest => some (if rest.getLast? = some ']' then some rest.dropLast else none)
  | _ => none

/-- What stands between brackets has to be an address of version six. -/
def readBracketed (text : Option (List Char)) : Except UrlError Host :=
  match text.bind Ipv6.read? with
  | some address => .ok (ipv6 address)
  | none => .error .invalidIpv6

/-- Read the host of a URL of a well-known scheme. -/
def read (text : List Char) : Except UrlError Host :=
  match bracketed? text with
  | some inner => readBracketed inner
  | none =>
    match Domain.read? (Text.Utf8.decode (Percent.decode text)) with
    | none => .error .domainEncoding
    | some [] => .error .emptyHost
    | some name =>
      if Ipv4.isMeant name then
        match Ipv4.read? name with
        | some address => .ok (ipv4 address)
        | none => .error .invalidIpv4
      else .ok (domain name)

/-- The name of the own machine, which is left out of the URL of a file. -/
def ownName : List Char := "localhost".toList

/-- Read the host of the URL of a file. It may be missing. -/
def readFile (text : List Char) : Except UrlError Host :=
  if text.isEmpty then .ok empty
  else do
    let host ← read text
    return if host = domain ownName then empty else host

/-- The characters that no host has. -/
def isForbidden (c : Char) : Bool :=
  ['\x00', '\t', '\n', '\r', ' ', '#', '/', ':', '<', '>', '?', '@', '[', '\\', ']', '^',
    '|'].contains c

/-- Read the host of a URL of another scheme. It may be missing. -/
def readPlain (text : List Char) : Except UrlError Host :=
  match bracketed? text with
  | some inner => readBracketed inner
  | none =>
    if text.isEmpty then .ok empty
    else if text.any isForbidden then .error .invalidDomainCharacter
    else .ok (plain (Percent.encode Percent.isControl text))

/-- A host as it is written. -/
def write : Host → List Char
  | empty => []
  | domain name => name
  | ipv4 address => address.write
  | ipv6 address => '[' :: address.write ++ [']']
  | plain text => text

end Host

end Onboarding
