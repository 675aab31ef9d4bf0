import Onboarding.KeyMap

/-! # Records described once, read from any notation

A record type is described by the list of its fields: the keys that name a field,
what happens when the field is absent, and how its value enters the record. A
`Source` says how texts, flags, lists and records are read from the values of one
notation, and every reader of a domain type is written over an arbitrary source.
So the types' readers agree in all notations, and a notation decides only what
its own values mean and how it reports a misfit.
-/

namespace Onboarding

/-- What becomes of a record when one of its fields is absent. -/
inductive Presence where
  /-- The field has to be there. -/
  | mandatory
  /-- An absent key leaves the field unset, but a list of values needs its place. -/
  | placed
  /-- The record keeps the value it starts with. -/
  | defaulted
  deriving DecidableEq, Repr

/-- A field of the records `ρ`, whose values stand in a notation `ν` with misfits
`ε`: its key, further keys that mean the same, and its entry into a record. -/
structure Field (ν ε ρ : Type) where
  key : String
  aliases : List String
  presence : Presence
  enter : ν → ρ → Except ε ρ

/-- A record type: its name, the record before any field is read, and the fields
in order of declaration. -/
structure Record (ν ε ρ : Type) where
  title : String
  blank : ρ
  fields : List (Field ν ε ρ)

/-- A record in the course of reading, with the keys of the fields that have been
read. -/
structure Filling (ρ : Type) where
  record : ρ
  filled : List String

namespace Field

variable {ν ε ρ α : Type}

/-- A field that is read and then set. -/
def of (presence : Presence) (key : String) (read : ν → Except ε α) (set : ρ → α → ρ) :
    Field ν ε ρ :=
  ⟨key, [], presence, fun value record => (read value).map (set record)⟩

/-- A field that must be there. -/
def mandatory (key : String) (read : ν → Except ε α) (set : ρ → α → ρ) : Field ν ε ρ :=
  of .mandatory key read set

/-- A field that keeps its starting value when it is absent. -/
def defaulted (key : String) (read : ν → Except ε α) (set : ρ → α → ρ) : Field ν ε ρ :=
  of .defaulted key read set

/-- A field that is unset when its key is absent, but has a place in a list. -/
def placed (key : String) (read : ν → Except ε α) (set : ρ → α → ρ) : Field ν ε ρ :=
  of .placed key read set

/-- The same field, which answers to another key besides. -/
def also (field : Field ν ε ρ) (key : String) : Field ν ε ρ :=
  { field with aliases := field.aliases ++ [key] }

/-- Whether a field is meant by a key. -/
def answersTo (field : Field ν ε ρ) (key : String) : Bool :=
  field.key == key || field.aliases.contains key

end Field

namespace Record

variable {ν ε ρ : Type}

/-- A record of which nothing has been read. -/
def start (shape : Record ν ε ρ) : Filling ρ := ⟨shape.blank, []⟩

/-- The field that is meant by a key. -/
def field? (shape : Record ν ε ρ) (key : String) : Option (Field ν ε ρ) :=
  shape.fields.find? (·.answersTo key)

/-- Read one entry. A field may be named once; an entry that names no field is
only skipped. -/
def visit (shape : Record ν ε ρ) (duplicate : String → ε) (skip : ν → Except ε Unit)
    (filling : Filling ρ) (key : String) (value : ν) : Except ε (Filling ρ) :=
  match shape.field? key with
  | none => do
    skip value
    return filling
  | some field =>
    if filling.filled.contains field.key then throw (duplicate field.key)
    else do
      let record ← field.enter value filling.record
      return ⟨record, field.key :: filling.filled⟩

/-- The record after its last entry: the first mandatory field that was not named
is missing. -/
def finish (shape : Record ν ε ρ) (missing : String → ε) (filling : Filling ρ) : Except ε ρ :=
  match shape.fields.find? fun field =>
      field.presence = .mandatory ∧ filling.filled.contains field.key = false with
  | some field => throw (missing field.key)
  | none => return filling.record

/-- Fill the fields in order of declaration from a list of values. Fields beyond
the end of the list keep their starting value; the first that may not is reported
with the number of values before it. Returned with the record are the values that
no field took. -/
def fillInOrder (short : Nat → ε) : Nat → List (Field ν ε ρ) → List ν → ρ →
    Except ε (ρ × List ν)
  | _, [], values, record => return (record, values)
  | position, field :: fields, [], record =>
    if field.presence = .defaulted then fillInOrder short (position + 1) fields [] record
    else throw (short position)
  | position, field :: fields, value :: values, record => do
    let record ← field.enter value record
    fillInOrder short (position + 1) fields values record

end Record

/-- How the values of a notation `ν` are read, with misfits `ε`. -/
structure Source (ν ε : Type) where
  /-- A text. -/
  text : ν → Except ε String
  /-- A truth value. -/
  flag : ν → Except ε Bool
  /-- Nothing, or a value. -/
  optional : {α : Type} → (ν → Except ε α) → ν → Except ε (Option α)
  /-- Values in a row. -/
  list : {α : Type} → (ν → Except ε α) → ν → Except ε (List α)
  /-- Values under keys. -/
  map : {α : Type} → (ν → Except ε α) → ν → Except ε (KeyMap α)
  /-- One of some named values. -/
  choice : {α : Type} → List (String × α) → ν → Except ε α
  /-- A record. -/
  record : {ρ : Type} → Record ν ε ρ → ν → Except ε ρ

end Onboarding
