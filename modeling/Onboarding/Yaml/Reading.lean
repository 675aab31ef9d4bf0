import Onboarding.Record
import Onboarding.Yaml.Node

/-! # Reading domain values from YAML texts

What a plain scalar means depends on what is expected: where a text is expected it
is taken as it is written, and only where a truth value or an absent value is
possible do certain words mean one. A plain scalar without characters stands for an
absent value, an empty list, map or record. A named value may be given by a tag
instead of a scalar. Parts that are passed over only have to be well formed.
-/

namespace Onboarding.Yaml

/-- Why a text cannot be read as a domain value. -/
inductive Fault where
  /-- The text is no YAML, or holds several documents. -/
  | malformed
  /-- A value of another kind. -/
  | wrongKind (expected : String)
  /-- A name that is none of the named values. -/
  | unknownName (name : String)
  /-- A mandatory field that is absent. -/
  | missingField (key : String)
  /-- A field that is there twice. -/
  | duplicateField (key : String)
  deriving DecidableEq, Repr

/-- A node within its document. -/
structure Place where
  tree : Tree
  node : Node

namespace Place

/-- The node that a place stands for, an alias being followed. -/
def resolved (place : Place) : Node :=
  match place.node with
  | .alias number => (place.tree.target? number).getD .empty
  | node => node

/-- Another node of the same tree. -/
def beside (place : Place) (node : Node) : Place := { place with node }

end Place

/-- The words for nothing. -/
def nullWords : List String := ["null", "Null", "NULL", "~"]

/-- The words for true and false. -/
def flagWords : List (String × Bool) :=
  [("true", true), ("True", true), ("TRUE", true), ("false", false), ("False", false),
    ("FALSE", false)]

/-- The tag of absent values. -/
def nullTag : String := "tag:yaml.org,2002:null"

/-- The tag of truth values. -/
def flagTag : String := "tag:yaml.org,2002:bool"

/-- Whether a node is written with no character. -/
def Node.isBlank : Node → Bool
  | .scalar .plain _ text => text.isEmpty
  | _ => false

/-- A text is a scalar of any style. -/
def readText (place : Place) : Except Fault String :=
  match place.resolved with
  | .scalar _ _ text => .ok text
  | _ => .error (.wrongKind "a string")

/-- Read a truth value, which is written plainly, or tagged and literally. -/
def readFlag (place : Place) : Except Fault Bool :=
  let word (text : String) : Except Fault Bool :=
    match flagWords.lookup text with
    | some value => .ok value
    | none => .error (.wrongKind "a boolean")
  match place.resolved with
  | .scalar .plain _ text => word text
  | .scalar .literal (some tag) text =>
    if tag = flagTag then word text else .error (.wrongKind "a boolean")
  | _ => .error (.wrongKind "a boolean")

/-- A scalar that is empty, or a word for nothing, is nothing. Quotes make a text of it. -/
def readOptional {α : Type} (read : Place → Except Fault α) (place : Place) :
    Except Fault (Option α) :=
  let present := (read place).map some
  match place.resolved with
  | .scalar .plain none text =>
    if text.isEmpty ∨ nullWords.contains text then .ok none else present
  | .scalar .plain (some tag) text =>
    if tag ≠ nullTag then present
    else if nullWords.contains text then .ok none
    else .error (.wrongKind "null")
  | _ => present

/-- A list is a sequence. Nothing is a list without items. -/
def readList {α : Type} (read : Place → Except Fault α) (place : Place) :
    Except Fault (List α) :=
  match place.resolved with
  | .sequence _ items => items.mapM fun item => read (place.beside item)
  | other => if other.isBlank then .ok [] else .error (.wrongKind "a sequence")

/-- Read the members of a mapping; of several with one key the last counts. -/
def readMap {α : Type} (read : Place → Except Fault α) (place : Place) :
    Except Fault (KeyMap α) :=
  match place.resolved with
  | .mapping _ members => do
    let entries ← members.mapM fun member => do
      let key ← readText (place.beside member.1)
      let value ← read (place.beside member.2)
      return (key, value)
    return KeyMap.ofList entries
  | other => if other.isBlank then .ok KeyMap.empty else .error (.wrongKind "a map")

/-- The choice of a name, if it is one. -/
def named {α : Type} (choices : List (String × α)) (name : String) : Except Fault α :=
  match choices.lookup name with
  | some value => .ok value
  | none => .error (.unknownName name)

/-- The name in a tag that begins with an exclamation mark. -/
def tagName? : Option String → Option String
  | some tag =>
    match tag.toList with
    | '!' :: name => some (String.ofList name)
    | _ => none
  | none => none

/-- Read one of the named values: the text of a scalar, or a tag on an absent
value. -/
def readChoice {α : Type} (choices : List (String × α)) (place : Place) : Except Fault α :=
  match place.resolved with
  | .scalar style tag text =>
    match tagName? tag with
    | none => named choices text
    | some name => do
      let value ← named choices name
      if style = .plain ∧ (text.isEmpty ∨ nullWords.contains text) then return value
      else throw (.wrongKind "null")
  | _ => .error (.wrongKind "a name")

/-- A record is a mapping, read entry by entry. Nothing is a mapping without entries. -/
def readRecord {ρ : Type} (shape : Record Place Fault ρ) (place : Place) : Except Fault ρ :=
  match place.resolved with
  | .mapping _ members => do
    let filling ← members.foldlM (fun filling member => do
      let key ← readText (place.beside member.1)
      shape.visit .duplicateField (fun _ => .ok ()) filling key (place.beside member.2)) shape.start
    shape.finish .missingField filling
  | other =>
    if other.isBlank then shape.finish .missingField shape.start
    else .error (.wrongKind shape.title)

/-- YAML texts as a source of domain values. -/
def source : Source Place Fault where
  text := readText
  flag := readFlag
  optional := readOptional
  list := readList
  map := readMap
  choice := readChoice
  record := readRecord

/-- What a text is read as, from the root of its tree. -/
def readText? {α : Type} (read : Place → Except Fault α) (text : String) : Except Fault α :=
  match Tree.ofText? text with
  | some tree => read ⟨tree, tree.root⟩
  | none => .error .malformed

end Onboarding.Yaml
