import Onboarding.Edit.FieldPath

/-! # Assignments given as text

An override is written `PATH=VALUE`. White space around the path does not count,
the value begins behind the first equals sign and is taken as it is, and a path
without an equals sign carries no value. Overrides are applied in order, up to the
first that fails.
-/

namespace Onboarding

/-- A path and what may be a text for it. -/
structure Assignment where
  path : String
  value : Option String
  deriving DecidableEq, Repr

/-- Why an override cannot be applied; each reason carries the override. -/
inductive AssignmentError where
  /-- There is no path. -/
  | noPath (raw : String)
  /-- The edit is not understood or is refused. -/
  | edit (raw : String) (cause : EditError)
  deriving DecidableEq, Repr

/-- The report of an override that cannot be applied. -/
def AssignmentError.message : AssignmentError → String
  | noPath raw => "Invalid assignment " ++ raw ++ ", expected PATH=VALUE"
  | edit raw cause => "Cannot apply " ++ raw ++ ": " ++ cause.message

namespace Assignment

/-- The two sides of the first equals sign; without one there is no right side. -/
def split : List Char → List Char × Option (List Char)
  | [] => ([], none)
  | '=' :: rest => ([], some rest)
  | c :: rest => (c :: (split rest).1, (split rest).2)

/-- An override is split at its first equals sign, and its path is trimmed. Without a path
it is none. -/
def ofText? (raw : String) : Option Assignment :=
  let (left, right) := split raw.toList
  let path := Text.trim (String.ofList left)
  if path.isEmpty then none else some ⟨path, right.map String.ofList⟩

/-- The change that an override makes to the answers. -/
def change (raw : String) : InPlace AssignmentError Answers Unit :=
  match ofText? raw with
  | none => throw (.noPath raw)
  | some ⟨path, value⟩ =>
    match Edit.ofAssignment path value with
    | .error cause => throw (.edit raw cause)
    | .ok none => pure ()
    | .ok (some edit) => edit.change.adaptExcept (.edit raw)

/-- The answers after an override that is applied to a copy of them, or why it cannot
be. -/
def apply (answers : Answers) (raw : String) : Except AssignmentError Answers :=
  (change raw).apply answers

/-- The answers after several overrides, and why the first that failed did so.
Those before it stay applied. -/
def applyAll (answers : Answers) : List String → Answers × Option AssignmentError
  | [] => (answers, none)
  | raw :: rest =>
    match change raw answers with
    | .ok () answers => applyAll answers rest
    | .error error left => (left, some error)

end Assignment

end Onboarding
