/-! # Schemes

A URL begins with its scheme. The schemes of files and of well-known network services
have rules of their own: a backslash counts as a slash in them, they have a host or at
least a place for it, and services have a port of their own that is not shown.
-/

namespace Onboarding

/-- What rules a scheme follows. -/
inductive SchemeKind where
  | file
  /-- A network service with the port it has when none is given. -/
  | service (port : Nat)
  | general
  deriving DecidableEq, Repr

namespace SchemeKind

/-- The schemes of services, each with its port. -/
def ports : List (String × Nat) :=
  [("http", 80), ("https", 443), ("ws", 80), ("wss", 443), ("ftp", 21)]

/-- The kind of a scheme. -/
def ofScheme (scheme : List Char) : SchemeKind :=
  let name := String.ofList scheme
  if name = "file" then file
  else
    match ports.lookup name with
    | some port => service port
    | none => general

/-- The port that is not shown. -/
def defaultPort? : SchemeKind → Option Nat
  | service port => some port
  | file | general => none

/-- Whether a character separates the parts of a URL as a slash does. -/
def isSlash (kind : SchemeKind) (c : Char) : Bool :=
  c == '/' || (c == '\\' && kind != general)

end SchemeKind

/-- The characters of a scheme behind its first one, which is a letter. -/
def isSchemeChar (c : Char) : Bool :=
  c.isAlphanum || ['+', '-', '.'].contains c

/-- Read the scheme in front of a colon, in lower case, and what follows it. -/
def readScheme? (text : List Char) : Option (List Char × List Char) :=
  match text.takeWhile isSchemeChar, text.dropWhile isSchemeChar with
  | first :: others, ':' :: rest =>
    if first.isAlpha then some ((first :: others).map Char.toLower, rest) else none
  | _, _ => none

end Onboarding
