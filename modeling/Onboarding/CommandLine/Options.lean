/-! # Options on a command line

A command line is a row of words. An option is named by two dashes and its name, or
by one dash and a letter; an option that takes a value has it behind an equals sign,
right behind its letter, or in the next word, unless that word looks like an option
itself. Behind two bare dashes no word is an option any more. Values are accepted
only when the next option or the end shows that they are complete, so a fault in a
value may be preceded by a fault in what follows it.
-/

namespace Onboarding.CommandLine

/-- Why a command line is refused, or answered with a text about itself. -/
inductive UsageError where
  | helpRequested
  | versionRequested
  | nothingGiven
  | missingCommand
  | unknownCommand
  | missingOption
  | missingValue
  | unknownArgument
  | repeatedOption
  | unexpectedValue
  | invalidValue
  deriving DecidableEq, Repr

/-- What an option does. -/
inductive OptionKind where
  /-- Takes one value, once. -/
  | single
  /-- Takes a value each time it is given. -/
  | repeated
  /-- Takes no value, once. -/
  | switch
  /-- Asks for help. -/
  | help
  /-- Asks for the version. -/
  | version
  deriving DecidableEq, Repr

/-- An option: its name, its letter, what it does, and which values it accepts. -/
structure Opt where
  name : String
  letter : Option Char
  kind : OptionKind
  accept : String → Except UsageError Unit

namespace Opt

/-- Whether an option is followed by a value. -/
def takesValue (option : Opt) : Bool :=
  option.kind = .single || option.kind = .repeated

/-- The option that asks for help. -/
def help : Opt := ⟨"help", some 'h', .help, fun _ => .ok ()⟩

/-- The option that asks for the version. -/
def version : Opt := ⟨"version", some 'V', .version, fun _ => .ok ()⟩

/-- An option that takes any text as its value. -/
def text (name : String) : Opt := ⟨name, none, .single, fun _ => .ok ()⟩

/-- An option that is on if it is given. -/
def switch (name : String) : Opt := ⟨name, none, .switch, fun _ => .ok ()⟩

end Opt

/-- The options that were read: those that are complete, with their values in
order, and one that may still wait for its value. -/
structure Given where
  complete : List (String × String)
  waiting : Option (Opt × Option String)

namespace Given

/-- Nothing is given. -/
def none : Given := ⟨[], .none⟩

/-- Whether an option is given. -/
def has (given : Given) (name : String) : Bool :=
  given.complete.any (·.1 == name)

/-- The value of an option that is given once. -/
def value? (given : Given) (name : String) : Option String :=
  given.complete.lookup name

/-- The values of an option that may be given repeatedly. -/
def values (given : Given) (name : String) : List String :=
  (given.complete.filter (·.1 == name)).map Prod.snd

/-- A value is accepted once, unless the option may be repeated, and only as the option
allows it. -/
def accept (given : Given) (option : Opt) (value : String) : Except UsageError Given := do
  if option.kind ≠ .repeated ∧ given.has option.name then throw .repeatedOption
  option.accept value
  return { given with complete := given.complete ++ [(option.name, value)] }

/-- Accept the option that waits. One without a value is incomplete. -/
def settle (given : Given) : Except UsageError Given :=
  match given.waiting with
  | .none => .ok given
  | some (_, .none) => .error .missingValue
  | some (option, some value) => ({ given with waiting := .none } : Given).accept option value

/-- An option without a value is on. Asking for help or for the version ends the reading. -/
def use (given : Given) (option : Opt) : Except UsageError Given := do
  let given ← given.settle
  match option.kind with
  | .help => throw .helpRequested
  | .version => throw .versionRequested
  | _ => given.accept option "true"

/-- Use an option that takes a value, which may stand right behind it. -/
def useWith (given : Given) (option : Opt) (attached : Option String) :
    Except UsageError Given := do
  let given ← given.settle
  match attached with
  | some value => given.accept option value
  | .none => return { given with waiting := some (option, .none) }

end Given

/-- Split a text at its first equals sign. -/
def splitEquals : List Char → List Char × Option (List Char)
  | [] => ([], none)
  | '=' :: rest => ([], some rest)
  | c :: rest => (c :: (splitEquals rest).1, (splitEquals rest).2)

/-- A word that names an option in full, with a value attached behind an equals sign or
not. -/
def readNamed (options : List Opt) (given : Given) (word : List Char) :
    Except UsageError Given := do
  let (name, attached) := splitEquals word
  match options.find? (·.name == String.ofList name) with
  | none => throw .unknownArgument
  | some option =>
    if option.takesValue then given.useWith option (attached.map String.ofList)
    else if attached.isSome then throw .unexpectedValue
    else given.use option

/-- Read options given by their letters. What follows the letter of an option that
takes a value is its value. -/
def readLetters (options : List Opt) (given : Given) : List Char → Except UsageError Given
  | [] => .ok given
  | letter :: rest =>
    match options.find? (·.letter == some letter) with
    | none => .error .unknownArgument
    | some option =>
      if option.takesValue then
        let attached := match rest with
          | [] => none
          | '=' :: value => some value
          | value => some value
        given.useWith option (attached.map String.ofList)
      else do
        let given ← given.use option
        readLetters options given rest

/-- What follows the options: nothing, or a command with the words behind it. -/
structure Remainder where
  given : Given
  command : Option (String × List String)

/-- Read words up to a command, if there are commands. A word that is neither an
option nor a value nor a command is refused. -/
def readWords (options : List Opt) (commands : List String) (given : Given) (ended : Bool) :
    List String → Except UsageError Remainder
  | [] => .ok ⟨given, none⟩
  | word :: rest =>
    let isWaiting := match given.waiting with
      | some (_, none) => true
      | _ => false
    let stray : Except UsageError Remainder :=
      .error (if commands.isEmpty ∨ (ended ∧ commands.contains word) then .unknownArgument
        else .unknownCommand)
    if ended then stray
    else if !isWaiting ∧ commands.contains word then .ok ⟨given, some (word, rest)⟩
    else
      match word.toList with
      | ['-', '-'] => readWords options commands given true rest
      | '-' :: '-' :: name => do
        let given ← readNamed options given name
        readWords options commands given false rest
      | '-' :: letter :: letters => do
        let given ← readLetters options given (letter :: letters)
        readWords options commands given false rest
      | _ =>
        match given.waiting with
        | some (option, none) =>
          readWords options commands { given with waiting := some (option, some word) } false rest
        | _ => stray

end Onboarding.CommandLine
