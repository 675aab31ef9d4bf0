import Onboarding.Client
import Onboarding.Program

/-! # The command line program

The program reads its command line, its environment and the file of answers, runs the
command, and prints the text that comes of it. It has no way to the service of its own,
so that a command that has to ask the service ends with a failed request.
-/

namespace Onboarding

open CommandLine (EnvironmentOption UsageError)

/-- What the user is told about a command line that is not run. -/
def CommandLine.UsageError.report : UsageError → String
  | helpRequested => "Commands: " ++ ", ".intercalate CommandLine.commandWords
  | versionRequested => "0.1.0"
  | nothingGiven | missingCommand => "A command is needed"
  | unknownCommand => "There is no such command"
  | missingOption => "A file of answers is needed"
  | missingValue => "An option needs a value"
  | unknownArgument => "An argument is unknown"
  | repeatedOption => "An option is given twice"
  | unexpectedValue => "An option takes no value"
  | invalidValue => "A value is not accepted"

/-- What the user is told about a command without a text. -/
def RunError.report : RunError → String
  | load error => error.message
  | submission error => error.message
  | service error => error.message
  | rejected walk => walk.message

/-- The environment as far as the command line looks into it. -/
def readEnvironment : IO (String → Option String) := do
  let options := [CommandLine.addressOption, CommandLine.tokenOption, CommandLine.userOption]
  let values ← options.mapM fun option => do
    return (option.variableName, ← IO.getEnv option.variableName)
  return fun name => (values.lookup name).join

/-- The file of answers as the only file. -/
def readFiles (name : String) : IO Files := do
  try
    let content ← IO.FS.readBinFile name
    return fun asked => if asked = name then .ok content else .error .absent
  catch
    | .inappropriateType .. => return fun _ => .error .directory
    | _ => return fun _ => .error .absent

/-- Print a report of something that went wrong. -/
def complain (report : String) (code : UInt32) : IO UInt32 := do
  IO.eprintln report
  return code

/-- Run a command line and tell with which code the program ends. -/
def runWords (words : List String) : IO UInt32 := do
  match CommandLine.read (← readEnvironment) words with
  | .error error => complain error.report 2
  | .ok invocation =>
    match Client.ofText invocation.address with
    | .error error => complain error.message 1
    | .ok client =>
      let files ← readFiles (Command.answers invocation.command).file
      match (Invocation.run (client.service fun _ _ => none) invocation files).output with
      | .ok text => do
        IO.println text
        return 0
      | .error error => complain error.report 1

end Onboarding

/-- What runs when the program is called with some words. -/
def main (words : List String) : IO UInt32 :=
  Onboarding.runWords words
