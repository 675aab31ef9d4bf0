import Onboarding.Json.Misfit
import Onboarding.Record

/-! # Reading domain values from JSON values

A record is read from an object, whose members are visited in their order and
need not all be known, or from an array with the fields in order of declaration.
A named value is a string, or an object whose one member has the name as its key
and null as its value.
-/

namespace Onboarding.Json

/-- The misfit of a value that is not of the kind that was expected. -/
def wrongKind {α : Type} (json : Json) (expected : String) : Except Misfit α :=
  .error (.wrongKind json.found expected)

/-- A text is a string. -/
def readText : Json → Except Misfit String
  | string value => .ok value
  | other => other.wrongKind "a string"

/-- A flag is true or false. -/
def readFlag : Json → Except Misfit Bool
  | bool value => .ok value
  | other => other.wrongKind "a boolean"

/-- Null is the absent value. -/
def readOptional {α : Type} (read : Json → Except Misfit α) : Json → Except Misfit (Option α)
  | null => .ok none
  | present => (read present).map some

/-- Read the items of an array in order. -/
def readList {α : Type} (read : Json → Except Misfit α) : Json → Except Misfit (List α)
  | array items => items.mapM read
  | other => other.wrongKind "a sequence"

/-- Read the members of an object in order. -/
def readMap {α : Type} (read : Json → Except Misfit α) : Json → Except Misfit (KeyMap α)
  | object members => do
    let entries ← members.mapM fun member => do
      let value ← read member.2
      return (member.1, value)
    return KeyMap.ofList entries
  | other => other.wrongKind "a map"

/-- The choice of a name, if it is one. -/
def named {α : Type} (choices : List (String × α)) (name : String) : Except Misfit α :=
  match choices.lookup name with
  | some value => .ok value
  | none => .error (.unknownName name (choices.map Prod.fst))

/-- A choice is read from its name, or from an object whose only key is its name and whose
value is null. -/
def readChoice {α : Type} (choices : List (String × α)) : Json → Except Misfit α
  | string name => named choices name
  | object [(name, content)] => do
    let value ← named choices name
    match content with
    | null => return value
    | other => other.wrongKind "unit"
  | object _ => .error .notOneMember
  | other => other.wrongKind "string or map"

/-- A record is read from an object, member by member, or from an array, field by field. -/
def readRecord {ρ : Type} (shape : Record Json Misfit ρ) : Json → Except Misfit ρ
  | object members => do
    let filling ← members.foldlM (fun filling member =>
      shape.visit .duplicateField (fun _ => .ok ()) filling member.1 member.2) shape.start
    shape.finish .missingField filling
  | array items => do
    let short := fun length => Misfit.tooShort length shape.title shape.fields.length
    let (record, rest) ← Record.fillInOrder short 0 shape.fields items shape.blank
    match rest with
    | [] => return record
    | _ => throw (.tooLong items.length)
  | other => other.wrongKind ("struct " ++ shape.title)

/-- JSON values as a source of domain values. -/
def source : Source Json Misfit where
  text := readText
  flag := readFlag
  optional := readOptional
  list := readList
  map := readMap
  choice := readChoice
  record := readRecord

end Onboarding.Json
