import Onboarding.KeyMap
import Onboarding.Number.Binary64

/-! # JSON values

A value of JSON. The members of an object stand in a row, in the order in which
they were written; an object is in order when its keys increase. Whole numbers of
64 bits are kept exactly, all others as binary floating point numbers.
-/

namespace Onboarding

/-- A JSON number: a whole number of 64 bits, or the bits of a floating point one. -/
inductive JsonNumber where
  | integer (value : Int)
  | binary (bits : UInt64)
  deriving DecidableEq, Repr, Inhabited

/-- A value of JSON. The members of an object stand in the order in which they were
written, and a key may stand there twice. -/
inductive Json where
  | null
  | bool (value : Bool)
  | number (value : JsonNumber)
  | string (value : String)
  | array (items : List Json)
  | object (members : List (String × Json))
  deriving Repr, Inhabited, BEq

namespace Json

/-- A member that is left out when it has no value. -/
def optionalMember {α : Type} (key : String) (value : Option α) (write : α → Json) :
    List (String × Json) :=
  match value with
  | some value => [(key, write value)]
  | none => []

/-- The object of a map, its keys in order. -/
def ofMap {α : Type} (map : KeyMap α) (write : α → Json) : Json :=
  object (map.entries.map fun entry => (entry.1, write entry.2))

/-- The array of the values of a list. -/
def ofList {α : Type} (values : List α) (write : α → Json) : Json :=
  array (values.map write)

/-- The value of a member, if this is an object that has it. -/
def member? (json : Json) (key : String) : Option Json :=
  match json with
  | object members => members.lookup key
  | _ => none

/-- The members of an object as a map; of several with one key the last counts. -/
def memberMap? (json : Json) : Option (KeyMap Json) :=
  match json with
  | object members => some (KeyMap.ofList members)
  | _ => none

end Json

end Onboarding
