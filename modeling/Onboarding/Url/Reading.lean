import Onboarding.Url.Basic

/-! # Reading a URL

Controls and spaces around a URL are dropped, and so are tabs and line ends anywhere in
it. The first hash mark begins the fragment, and the first question mark before it the
query; what stands between the scheme and these is read by the rules of the scheme.
-/

namespace Onboarding.Url

/-- Characters dropped around a URL. -/
def isMargin (c : Char) : Bool :=
  c.toNat ≤ 0x20

/-- Characters dropped anywhere in a URL. -/
def isDropped (c : Char) : Bool :=
  c == '\t' || c == '\n' || c == '\r'

/-- What counts of a text: margins are taken off, and line ends and tabs left out. -/
def significant (text : List Char) : List Char :=
  ((((text.dropWhile isMargin).reverse.dropWhile isMargin).reverse).filter (!isDropped ·))

/-- Split a text at the first place where a character stands. -/
def splitFirst (separator : Char) (text : List Char) : List Char × Option (List Char) :=
  match text.dropWhile (· ≠ separator) with
  | [] => (text, none)
  | _ :: rest => (text.takeWhile (· ≠ separator), some rest)

/-- Split a text at the last place where a character stands: what stands before it, if
it is there, and what stands behind it. -/
def splitLast (separator : Char) (text : List Char) : Option (List Char) × List Char :=
  let (behind, before) := splitFirst separator text.reverse
  (before.map List.reverse, behind.reverse)

/-- Split a host from its port. Colons in brackets belong to the host. -/
def splitPort (inBrackets : Bool) : List Char → List Char × Option (List Char)
  | [] => ([], none)
  | c :: rest =>
    if c = ':' ∧ !inBrackets then ([], some rest)
    else
      let (host, port) := splitPort (c == '[' || (inBrackets && c != ']')) rest
      (c :: host, port)

/-- Read a user. One without a name and a password is none. -/
def readUser (text : List Char) : Option UrlUser :=
  let (name, password) := splitFirst ':' text
  let user : UrlUser :=
    ⟨Percent.encode Percent.inUser name, Percent.encode Percent.inUser (password.getD [])⟩
  if user.name = [] ∧ user.password = [] then none else some user

/-- Read a port. No digits, or the port that the scheme has anyway, are none. -/
def readPort (kind : SchemeKind) (digits : List Char) : Except UrlError (Option Nat) :=
  if digits.isEmpty then .ok none
  else
    match Ipv4.number? 10 digits with
    | none => .error .invalidPort
    | some port =>
      if 0xFFFF < port then .error .invalidPort
      else .ok (if some port = kind.defaultPort? then none else some port)

/-- Read an authority. A user or a port needs a host. -/
def readAuthority (kind : SchemeKind) (text : List Char) : Except UrlError Authority := do
  let (user, place) := splitLast '@' text
  let (hostText, port) := splitPort false place
  let host ← if kind = .general then Host.readPlain hostText else Host.read hostText
  if host = .empty ∧ (user.isSome ∨ port.isSome) then throw .emptyHost
  let port ← readPort kind (port.getD [])
  return ⟨user.bind readUser, host, port⟩

/-- The authority of a file on a host. -/
def fileAuthority (host : Host) : Authority :=
  ⟨none, host, none⟩

/-- The target of a file. A path with a drive is on the own machine. -/
def fileTarget (host : Host) (path : List Char) : UrlTarget :=
  let segments := Path.read .file path
  let isOnDrive := Path.isDrive (segments.take 1)
  .hosted (fileAuthority (if isOnDrive then .empty else host)) segments

/-- Read what stands behind the scheme of a file. -/
def readFileTarget (body : List Char) : Except UrlError UrlTarget :=
  let isSlash := SchemeKind.file.isSlash
  match body with
  | first :: second :: rest =>
    if isSlash first && isSlash second then do
      let hostText := rest.takeWhile (!isSlash ·)
      if (Path.driveLetter? hostText).isSome then return fileTarget .empty rest
      else
        let host ← Host.readFile hostText
        return fileTarget host (rest.dropWhile (!isSlash ·))
    else .ok (fileTarget .empty body)
  | _ => .ok (fileTarget .empty body)

/-- Read an authority and the path behind it. -/
def readHosted (kind : SchemeKind) (text : List Char) : Except UrlError UrlTarget := do
  let authority ← readAuthority kind (text.takeWhile (!kind.isSlash ·))
  return .hosted authority (Path.read kind (text.dropWhile (!kind.isSlash ·)))

/-- What stands behind the scheme: it depends on the kind of the scheme, and on how many
slashes follow. -/
def readTarget (kind : SchemeKind) (body : List Char) : Except UrlError UrlTarget :=
  match kind, body with
  | .file, body => readFileTarget body
  | .service port, body =>
    readHosted (.service port) (body.dropWhile (SchemeKind.service port).isSlash)
  | .general, '/' :: '/' :: rest => readHosted .general rest
  | .general, '/' :: rest => .ok (.rooted (Path.read .general ('/' :: rest)))
  | .general, text => .ok (.plain (Percent.encode Percent.isControl text))

/-- A URL from its characters: the fragment is split off first, then the query, and the
target is what is left between the scheme and these. -/
def ofChars (chars : List Char) : Except UrlError Url := do
  match readScheme? chars with
  | none => throw .relativeWithoutBase
  | some (scheme, rest) =>
    let kind := SchemeKind.ofScheme scheme
    let (rest, fragment) := splitFirst '#' rest
    let (body, query) := splitFirst '?' rest
    let target ← readTarget kind body
    let inQuery := if kind = .general then Percent.inQuery else Percent.inSpecialQuery
    return ⟨scheme, target, query.map (Percent.encode inQuery),
      fragment.map (Percent.encode Percent.inFragment)⟩

/-- A URL from what counts of a text. -/
def parse (text : String) : Except UrlError Url :=
  ofChars (significant text.toList)

end Onboarding.Url
