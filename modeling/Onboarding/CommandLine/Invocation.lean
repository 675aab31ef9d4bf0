import Onboarding.Answers.Names
import Onboarding.Caller
import Onboarding.CommandLine.Options

/-! # What the command line asks for

The program has five commands, each over a file of answers with overrides. Where
the service is and who asks it may be said before the command, or in the
environment, which counts where the command line is silent.
-/

namespace Onboarding.CommandLine

/-- A file of answers, with overrides in order. -/
structure AnswersSource where
  file : String
  assignments : List String
  deriving DecidableEq, Repr

/-- The commands, each with where its answers come from and what it is told besides. -/
inductive Command where
  /-- Show the document. -/
  | document (answers : AnswersSource)
  /-- Have the document validated. -/
  | validate (answers : AnswersSource) (scope : Scope)
  /-- Show the rendered pipeline. -/
  | preview (answers : AnswersSource)
  /-- Generate the pipeline. -/
  | generate (answers : AnswersSource) (pullRequest : Bool)
  /-- Walk the answers through all stages, then generate unless it is only tried. -/
  | walk (answers : AnswersSource) (pullRequest dryRun : Bool)
  deriving DecidableEq, Repr

/-- A command, with the service it is for and the caller it is from. -/
structure Invocation where
  address : String
  caller : Caller
  command : Command
  deriving DecidableEq, Repr

/-- The names of the commands. -/
inductive CommandName where
  | document
  | validate
  | preview
  | generate
  | walk
  deriving DecidableEq, Repr

namespace CommandName

/-- The names of the commands, in the order in which help lists them. -/
def all : List CommandName := [document, validate, preview, generate, walk]

/-- The word that a command is called by. -/
def word : CommandName → String
  | document => "marshal"
  | validate => "validate"
  | preview => "preview"
  | generate => "generate"
  | walk => "wizard"

end CommandName

/-- The word that asks for help on a command. -/
def helpWord : String := "help"

/-- The words that stand in the place of a command. -/
def commandWords : List String :=
  CommandName.all.map CommandName.word ++ [helpWord]

/-- An option that may also be given by a variable of the environment. -/
structure EnvironmentOption where
  option : String
  variableName : String

/-- Where the service is. -/
def addressOption : EnvironmentOption := ⟨"api-url", "REPO_INIT_API_URL"⟩

/-- The token of the caller. -/
def tokenOption : EnvironmentOption := ⟨"access-token", "REPO_INIT_ACCESS_TOKEN"⟩

/-- The user on whose behalf the service acts. -/
def userOption : EnvironmentOption := ⟨"github-user", "REPO_INIT_GITHUB_USER"⟩

/-- The address of the service when none is given. -/
def defaultAddress : String := "http://localhost:8080/api"

/-- The options that stand in front of a command, or behind it. -/
def generalOptions : List Opt :=
  [.text addressOption.option, .text tokenOption.option, .text userOption.option, .help, .version]

/-- The file of answers has a name. -/
def fileOption : Opt :=
  ⟨"file", some 'f', .single, fun name => if name.isEmpty then .error .missingValue else .ok ()⟩

/-- The part of the document that is checked. -/
def scopeOption : Opt :=
  ⟨"type", none, .single, fun text => ((Scope.ofText? text).map fun _ => ()).mapError fun _ =>
    .invalidValue⟩

/-- The options of a command. All commands read answers from a file and apply overrides to
them. -/
def CommandName.options (name : CommandName) : List Opt :=
  [fileOption, ⟨"set", none, .repeated, fun _ => .ok ()⟩, .help] ++
    match name with
    | document | preview => []
    | validate => [scopeOption]
    | generate => [.switch "pull-request"]
    | walk => [.switch "pull-request", .switch "dry-run"]

/-- Read a command from the words behind its name. -/
def readCommand (name : CommandName) (words : List String) : Except UsageError Command := do
  let remainder ← readWords name.options [] .none false words
  let given ← remainder.given.settle
  match given.value? fileOption.name with
  | none => throw .missingOption
  | some file =>
    let answers : AnswersSource := ⟨file, given.values "set"⟩
    let pullRequest := given.has "pull-request"
    match name with
    | .document => return .document answers
    | .validate =>
      let scope := (given.value? scopeOption.name).bind fun text => (Scope.ofText? text).toOption
      return .validate answers (scope.getD .all)
    | .preview => return .preview answers
    | .generate => return .generate answers pullRequest
    | .walk => return .walk answers pullRequest (given.has "dry-run")

/-- Answer a question about commands: it may name one command, and no more. -/
def answerHelp : List String → UsageError
  | [] => .helpRequested
  | [word] => if commandWords.contains word then .helpRequested else .unknownCommand
  | _ => .unknownCommand

/-- The value of an option, given on the command line or in the environment. -/
def EnvironmentOption.value? (option : EnvironmentOption) (given : Given)
    (environment : String → Option String) : Option String :=
  (given.value? option.option).or (environment option.variableName)

/-- A command line is read from the left: options, a command with options of its own, and
what the environment says where an option is not given. -/
def read (environment : String → Option String) (words : List String) :
    Except UsageError Invocation := do
  let remainder ← readWords generalOptions commandWords .none false words
  let command ←
    match remainder.command with
    | none => pure none
    | some (word, rest) =>
      match CommandName.all.find? (·.word == word) with
      | some name => (readCommand name rest).map some
      | none => throw (answerHelp rest)
  let given ← remainder.given.settle
  let address := addressOption.value? given environment
  let token := tokenOption.value? given environment
  let user := userOption.value? given environment
  match command with
  | some command => return ⟨address.getD defaultAddress, ⟨token, user⟩, command⟩
  | none =>
    throw (if address.isNone ∧ token.isNone ∧ user.isNone then .nothingGiven else .missingCommand)

end Onboarding.CommandLine
