import Onboarding.Json.Value
import Onboarding.Text.Shown

/-! # Values that do not fit the type they are read as

A misfit names what was found and what would have fitted. Its message is the
same whether a value was read that had been taken apart before, or a text as it
goes along.
-/

namespace Onboarding.Json

/-- What stood in the place of the expected value. -/
inductive Found where
  | null
  | bool (value : Bool)
  | number (value : JsonNumber)
  | string (value : String)
  | sequence
  | map
  deriving DecidableEq, Repr

/-- A found value as a message names it. -/
def Found.text : Found → String
  | .null => "null"
  | .bool value => "boolean \x60" ++ toString value ++ "\x60"
  | .number (.integer value) => "integer \x60" ++ toString value ++ "\x60"
  | .number (.binary bits) => "floating point \x60" ++ Number.shortText bits ++ "\x60"
  | .string value => "string " ++ Text.shown value
  | .sequence => "sequence"
  | .map => "map"

/-- What is told of a value that is not of the kind that was expected. -/
def found : Json → Found
  | .null => .null
  | .bool value => .bool value
  | .number value => .number value
  | .string value => .string value
  | .array _ => .sequence
  | .object _ => .map

/-- The ways in which a value fails to fit a type. -/
inductive Misfit where
  /-- A value of another kind. -/
  | wrongKind (found : Found) (expected : String)
  /-- A name that is none of the named values. -/
  | unknownName (name : String) (known : List String)
  /-- A named value has to be an object with one member. -/
  | notOneMember
  /-- A mandatory field that is absent. -/
  | missingField (key : String)
  /-- A field that is there twice. -/
  | duplicateField (key : String)
  /-- A list with too few values for a record. -/
  | tooShort (length : Nat) (title : String) (size : Nat)
  /-- A list with more values than the record has fields. -/
  | tooLong (length : Nat)
  deriving DecidableEq, Repr

/-- A name between backquotes. -/
def backquoted (name : String) : String := "\x60" ++ name ++ "\x60"

/-- The names a value could have had, as a message lists them. -/
def knownNames : List String → String
  | [] => "there are no variants"
  | [only] => "expected " ++ backquoted only
  | [first, second] => "expected " ++ backquoted first ++ " or " ++ backquoted second
  | names => "expected one of " ++ ", ".intercalate (names.map backquoted)

/-- What is told of a misfit. -/
def Misfit.message : Misfit → String
  | .wrongKind found expected => "invalid type: " ++ found.text ++ ", expected " ++ expected
  | .unknownName name known => "unknown variant " ++ backquoted name ++ ", " ++ knownNames known
  | .notOneMember => "invalid value: map, expected map with a single key"
  | .missingField key => "missing field " ++ backquoted key
  | .duplicateField key => "duplicate field " ++ backquoted key
  | .tooShort length title size =>
    "invalid length " ++ toString length ++ ", expected struct " ++ title ++ " with " ++
      toString size ++ (if size = 1 then " element" else " elements")
  | .tooLong length =>
    "invalid length " ++ toString length ++ ", expected fewer elements in array"

end Onboarding.Json
