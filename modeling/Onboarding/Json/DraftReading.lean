import Onboarding.Json.Draft
import Onboarding.Json.Reading

/-! # Reading domain values from JSON texts

A text is read in its own order, so of a misfit and a fault of the text the one
that stands first is reported, and a fault in a part that is passed over counts
too. What is passed over need only be well formed.
-/

namespace Onboarding.Json

/-- Why a text cannot be read as a domain value. -/
inductive Fault where
  /-- The text is no JSON, or ends too early. -/
  | malformed
  /-- A value does not fit. -/
  | misfit (misfit : Misfit)
  deriving DecidableEq, Repr

namespace Draft

mutual

/-- Whether a draft is JSON all through, also where nothing reads it. -/
def wellFormed : Draft → Bool
  | array items => itemsWellFormed items
  | object members stray => membersWellFormed members && stray.isNone
  | unkeyed content => wellFormed content
  | broken => false
  | _ => true

/-- Whether the items of an array can be passed over. -/
def itemsWellFormed : List Draft → Bool
  | [] => true
  | item :: rest => wellFormed item && itemsWellFormed rest

/-- Whether the members of an object can be passed over. -/
def membersWellFormed : List (String × Draft) → Bool
  | [] => true
  | (_, content) :: rest => wellFormed content && membersWellFormed rest

end

/-- A value that no field reads has to be JSON all the same. -/
def skip (draft : Draft) : Except Fault Unit :=
  if draft.wellFormed then .ok () else .error .malformed

/-- What kind of value a part of a text is. -/
def found : Draft → Except Fault Found
  | null => .ok .null
  | bool value => .ok (.bool value)
  | number value => .ok (.number value)
  | string value => .ok (.string value)
  | array _ => .ok .sequence
  | object _ _ => .ok .map
  | hugeNumber | strangeString | unkeyed _ | broken => .error .malformed

/-- A misfit of kinds, unless the part is no JSON. -/
def wrongKind {α : Type} (draft : Draft) (expected : String) : Except Fault α := do
  let found ← draft.found
  throw (.misfit (.wrongKind found expected))

/-- A text is a string. -/
def readText : Draft → Except Fault String
  | string value => .ok value
  | other => other.wrongKind "a string"

/-- A flag is true or false. -/
def readFlag : Draft → Except Fault Bool
  | bool value => .ok value
  | other => other.wrongKind "a boolean"

/-- Null is the absent value. -/
def readOptional {α : Type} (read : Draft → Except Fault α) : Draft → Except Fault (Option α)
  | null => .ok none
  | present => (read present).map some

/-- Read the items of an array in order. -/
def readList {α : Type} (read : Draft → Except Fault α) : Draft → Except Fault (List α)
  | array items => items.mapM read
  | other => other.wrongKind "a sequence"

/-- An object ends with its closing brace. -/
def closed : Option Draft → Except Fault Unit
  | none => .ok ()
  | some _ => .error .malformed

/-- The key of a member is a text. -/
def keyed : Draft → Except Fault Unit
  | unkeyed _ => .error .malformed
  | _ => .ok ()

/-- Read the members of an object in order. -/
def readMap {α : Type} (read : Draft → Except Fault α) : Draft → Except Fault (KeyMap α)
  | object members stray => do
    let entries ← members.mapM fun member => do
      keyed member.2
      let value ← read member.2
      return (member.1, value)
    closed stray
    return KeyMap.ofList entries
  | other => other.wrongKind "a map"

/-- The choice of a name, if it is one. -/
def named {α : Type} (choices : List (String × α)) (name : String) : Except Fault α :=
  (Json.named choices name).mapError .misfit

/-- Read one of the named values: a string, or an object whose first key is the
name. -/
def readChoice {α : Type} (choices : List (String × α)) : Draft → Except Fault α
  | string name => named choices name
  | object [] (some stray) => stray.wrongKind "variant identifier"
  | object ((name, content) :: others) stray => do
    keyed content
    let value ← named choices name
    match content, others with
    | null, [] =>
      closed stray
      return value
    | null, _ => throw .malformed
    | content, _ => content.wrongKind "unit"
  | _ => .error .malformed

/-- A record is read from an object, member by member, or from an array, field by field. -/
def readRecord {ρ : Type} (shape : Record Draft Fault ρ) : Draft → Except Fault ρ
  | object members stray => do
    let filling ← members.foldlM (fun filling member => do
      keyed member.2
      shape.visit (.misfit <| .duplicateField ·) skip filling member.1 member.2) shape.start
    closed stray
    shape.finish (.misfit <| .missingField ·) filling
  | array items => do
    let short := fun length => Fault.misfit (.tooShort length shape.title shape.fields.length)
    let (record, rest) ← Record.fillInOrder short 0 shape.fields items shape.blank
    match rest with
    | [] => return record
    | _ => throw .malformed
  | other => other.wrongKind ("struct " ++ shape.title)

/-- JSON texts as a source of domain values. -/
def source : Source Draft Fault where
  text := readText
  flag := readFlag
  optional := readOptional
  list := readList
  map := readMap
  choice := readChoice
  record := readRecord

end Draft

/-- Read bytes that are said to be a whole text. Nothing may follow the value, but that is
noticed last. -/
def readBytes? {α : Type} (read : Draft → Except Fault α) (bytes : List UInt8) :
    Except Fault α := do
  let (draft, ended) := Draft.ofBytes bytes
  let value ← read draft
  if ended then return value else throw .malformed

/-- Read a whole text. -/
def readText? {α : Type} (read : Draft → Except Fault α) (text : String) : Except Fault α :=
  readBytes? read text.toUTF8.data.toList

end Onboarding.Json
