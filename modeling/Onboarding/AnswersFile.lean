import Onboarding.Answers.Wire
import Onboarding.Edit.Assignment
import Onboarding.Json.DraftReading
import Onboarding.Yaml.Reading

/-! # Files of answers

Answers are kept in files, as JSON text in a file whose extension is `json` in
whatever case, and as YAML text in every other file. They are loaded with overrides
that are applied in order.
-/

namespace Onboarding

/-- Why a file cannot be read as a text. -/
inductive FileFault where
  | absent
  | directory
  | noText
  deriving DecidableEq, Repr

/-- The report of a file that cannot be read. -/
def FileFault.message : FileFault → String
  | absent => "No such file or directory (os error 2)"
  | directory => "Is a directory (os error 21)"
  | noText => "stream did not contain valid UTF-8"

/-- What the files hold, by the names they are asked for. -/
abbrev Files := String → Except FileFault ByteArray

/-- Why answers cannot be loaded. -/
inductive LoadError where
  | unreadable (name : String) (fault : FileFault)
  | json (name : String) (fault : Json.Fault)
  | yaml (name : String) (fault : Yaml.Fault)
  | assignment (error : AssignmentError)
  deriving DecidableEq, Repr

namespace AnswersFile

/-- What stands behind the last slash of a path, slashes at its end left aside. -/
def baseName (path : List Char) : List Char :=
  (((path.reverse.dropWhile (· = '/')).takeWhile (· ≠ '/')).reverse)

/-- The extension of a file name: what follows its last point, unless the name
begins with that point or there is none. -/
def extension? (name : List Char) : Option (List Char) :=
  let reversed := name.reverse
  let extension := (reversed.takeWhile (· ≠ '.')).reverse
  match reversed.dropWhile (· ≠ '.') with
  | '.' :: _ :: _ => if name = ['.', '.'] then none else some extension
  | _ => none

/-- Whether a file is read as JSON text. -/
def isJson (name : String) : Bool :=
  match extension? (baseName name.toList) with
  | some extension => extension.map Char.toLower == "json".toList
  | none => false

/-- Read the answers in the text of a file. -/
def parse (name text : String) : Except LoadError Answers :=
  if isJson name then
    (Json.readText? (Answers.read Json.Draft.source) text).mapError (.json name)
  else (Yaml.readText? (Answers.read Yaml.source) text).mapError (.yaml name)

/-- Answers from a file. A file that cannot be read, or whose bytes are no text, is told by
its name. -/
def read (files : Files) (name : String) : Except LoadError Answers :=
  match files name with
  | .error fault => .error (.unreadable name fault)
  | .ok bytes =>
    match String.fromUTF8? bytes with
    | none => .error (.unreadable name .noText)
    | some text => parse name text

/-- Load the answers in a file, with overrides. -/
def load (files : Files) (name : String) (assignments : List String) :
    Except LoadError Answers := do
  let answers ← read files name
  match Assignment.applyAll answers assignments with
  | (answers, none) => return answers
  | (_, some error) => throw (.assignment error)

end AnswersFile

/-- The report of answers that cannot be loaded, as far as it is told in words. -/
def LoadError.message : LoadError → String
  | unreadable name fault => "Failed to read " ++ name ++ ": " ++ fault.message
  | json name (.misfit misfit) => "Failed to parse " ++ name ++ " as JSON: " ++ misfit.message
  | json name .malformed => "Failed to parse " ++ name ++ " as JSON"
  | yaml name _ => "Failed to parse " ++ name ++ " as YAML"
  | assignment error => error.message

end Onboarding
