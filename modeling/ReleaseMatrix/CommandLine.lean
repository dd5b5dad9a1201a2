import ReleaseMatrix.Command

/-!
# Command lines

A command line names a command and gives it options and operands. An option `--name` takes its value
from behind an equals sign or from the next word, which must not look like an option itself; behind
`--` every word is an operand. A word that is read for an option is taken only when the next option
or operand begins, so of two faults in a line the one that is met first counts, and words that fit
nothing count before an option or operand that still waits to be taken.
-/

namespace ReleaseMatrix

open Text

/-- Why a command line asks for nothing. -/
inductive UsageError where
  /-- There is no command. -/
  | missingCommand
  /-- There is no command of that name. -/
  | unknownCommand
  /-- A word is neither an option nor an operand of the command. -/
  | unknownArgument
  /-- A flag is given a value. -/
  | unexpectedValue
  /-- The value of an option is missing or not among the possible ones. -/
  | invalidValue
  /-- The version to look up is no version. -/
  | invalidVersion
  /-- An option is given twice. -/
  | repeatedOption
  /-- An option or operand that the command needs is not given. -/
  | missingArgument
deriving DecidableEq

/-- A command by its name alone. -/
inductive CommandName where
  /-- Shows the matrix. -/
  | matrix
  /-- Looks up a version. -/
  | info
  /-- Lists the unreleased versions other than the current one. -/
  | previousUnreleased
  /-- Checks the matrix. -/
  | check
deriving DecidableEq

/-- What help may be asked for on. -/
inductive HelpTopic where
  /-- The program as a whole. -/
  | program
  /-- A command. -/
  | command (name : CommandName)
  /-- Help itself. -/
  | help
deriving DecidableEq

/-- What a command line asks for. -/
inductive Request where
  /-- To carry out a command. -/
  | run (command : Command)
  /-- To show how something is used. -/
  | help (topic : HelpTopic)
  /-- To show the version of the program. -/
  | version
deriving DecidableEq

namespace CommandLine

/-! ### Words -/

/-- A word of a command line. -/
inductive Word where
  /-- The mark behind which every word is an operand. -/
  | separator
  /-- An option or flag with its name, and with the value behind an equals sign if there is one. -/
  | long (name : String) (value : Option String)
  /-- A group of flags of one letter each. -/
  | short (first : Char)
  /-- A word that is no option. -/
  | operand

/-- What a word is. -/
def Word.of (word : String) : Word :=
  match word.toList with
  | ['-', '-'] => .separator
  | '-' :: '-' :: rest =>
    match cut? (· = '=') rest with
    | some (name, value) => .long (String.ofList name) (some (String.ofList value))
    | none => .long (String.ofList rest) none
  | '-' :: letter :: _ => .short letter
  | _ => .operand

/-! ### Arguments -/

/-- Something that a command takes. -/
inductive Slot where
  /-- The config file. -/
  | config
  /-- The form of the output. -/
  | format
  /-- The version to look up. -/
  | version
  /-- The path of a project. -/
  | project
  /-- The file that lists the published versions. -/
  | published
deriving DecidableEq

/-- The command that has a name. -/
def commandNamed? : String → Option CommandName
  | "matrix" => some .matrix
  | "info" => some .info
  | "previous-unreleased" => some .previousUnreleased
  | "check" => some .check
  | _ => none

/-- What help may be asked for on by a word: a command, or help itself. -/
def topicNamed? (word : String) : Option HelpTopic :=
  if word = "help" then some .help else (commandNamed? word).map .command

/-- What an option of a command sets. -/
def option? (name : CommandName) (option : String) : Option Slot :=
  match name, option with
  | _, "config" => some .config
  | .matrix, "format" => some .format
  | .previousUnreleased, "project" => some .project
  | .check, "released" => some .published
  | _, _ => none

/-- What the operands of a command set, in their order. -/
def operands : CommandName → List Slot
  | .info => [.version]
  | _ => []

/-- What a command has been given. -/
structure Arguments where
  /-- The config file. -/
  config : Option String := none
  /-- The form of the output. -/
  format : Option OutputFormat := none
  /-- The version to look up. -/
  version : Option Version := none
  /-- The path of a project. -/
  project : Option String := none
  /-- The file that lists the published versions. -/
  published : Option String := none

namespace Arguments

/-- Sets a slot that nothing has set before to a value. -/
def fill {α : Type} (old : Option α) (value : Except UsageError α) :
    Except UsageError (Option α) :=
  match old with
  | some _ => .error .repeatedOption
  | none => value.map some

/-- A path, which must not be empty. -/
def pathValue (text : String) : Except UsageError String :=
  if text = "" then .error .invalidValue else .ok text

/-- The form of the output that a text names. -/
def formatValue : String → Except UsageError OutputFormat
  | "text" => .ok .text
  | "json" => .ok .json
  | _ => .error .invalidValue

/-- The version that a text writes. -/
def versionValue (text : String) : Except UsageError Version :=
  (Version.ofText text).mapError fun _ => .invalidVersion

/-- The arguments with one more. -/
def give (given : Arguments) (slot : Slot) (text : String) : Except UsageError Arguments := do
  match slot with
  | .config => return { given with config := ← fill given.config (pathValue text) }
  | .format => return { given with format := ← fill given.format (formatValue text) }
  | .version => return { given with version := ← fill given.version (versionValue text) }
  | .project => return { given with project := ← fill given.project (.ok text) }
  | .published => return { given with published := ← fill given.published (pathValue text) }

/-- The command of a name with the given arguments. -/
def command (given : Arguments) (name : CommandName) : Except UsageError Command :=
  match name, given.config, given.version with
  | .matrix, some config, _ => .ok (.matrix config (given.format.getD .text))
  | .info, some config, some version => .ok (.info config version)
  | .previousUnreleased, some config, _ => .ok (.previousUnreleased config given.project)
  | .check, some config, _ => .ok (.check config given.published)
  | _, _, _ => .error .missingArgument

end Arguments

/-- How far the words behind the name of a command have been read. -/
structure State where
  /-- The arguments that have been taken. -/
  given : Arguments := {}
  /-- The argument that waits to be taken, with the word that has been read for it. -/
  waiting : Option (Slot × Option String) := none
  /-- What the next operands set. -/
  operands : List Slot
  /-- Whether every further word is an operand. -/
  operandsOnly : Bool := false

namespace State

/-- Takes the argument that waits. -/
def settle (s : State) : Except UsageError State :=
  match s.waiting with
  | none => .ok s
  | some (_, none) => .error .invalidValue
  | some (slot, some text) => do
    return { s with given := ← s.given.give slot text, waiting := none }

/-- Reads a word that is no option. -/
def readOperand (s : State) (word : String) : Except UsageError State :=
  match s.operandsOnly, s.waiting, s.operands with
  | false, some (slot, none), _ => .ok { s with waiting := some (slot, some word) }
  | _, _, slot :: operands => do
    return { ← s.settle with waiting := some (slot, some word), operands }
  | _, _, [] => .error .unknownArgument

/-- Reads an option. -/
def readOption (s : State) (slot : Slot) (value : Option String) : Except UsageError State := do
  let s ← s.settle
  match value with
  | some text => return { s with given := ← s.given.give slot text }
  | none => return { s with waiting := some (slot, none) }

end State

/-- Reads the words behind the name of a command. -/
def readArguments (name : CommandName) (s : State) : List String → Except UsageError Request
  | [] => do
    let s ← s.settle
    return .run (← s.given.command name)
  | word :: rest =>
    if s.operandsOnly then do
      readArguments name (← s.readOperand word) rest
    else match Word.of word with
      | .separator => readArguments name { s with operandsOnly := true } rest
      | .long "help" (some _) => .error .unexpectedValue
      | .long "help" none | .short 'h' => do
        let _ ← s.settle
        return .help (.command name)
      | .long option value =>
        match option? name option with
        | some slot => do readArguments name (← s.readOption slot value) rest
        | none => .error .unknownArgument
      | .short _ => .error .unknownArgument
      | .operand => do readArguments name (← s.readOperand word) rest

/-! ### Lines -/

/-- What the words behind `help` ask for: help on the program or on one of its commands. -/
def readHelp : List String → Except UsageError Request
  | [] => .ok (.help .program)
  | [word] => ((topicNamed? word).map .help).elim (.error .unknownCommand) .ok
  | _ => .error .unknownCommand

/-- What a line asks for whose first word is no command. -/
def readFlag (word : String) (rest : List String) : Except UsageError Request :=
  match Word.of word with
  | .separator =>
    match rest with
    | [] => .error .missingCommand
    | next :: _ =>
      .error (if (topicNamed? next).isSome then .unknownArgument else .unknownCommand)
  | .long name value =>
    if name = "help" ∨ name = "version" then
      if value.isSome then .error .unexpectedValue
      else .ok (if name = "help" then .help .program else .version)
    else .error .unknownArgument
  | .short 'h' => .ok (.help .program)
  | .short 'V' => .ok .version
  | .short _ => .error .unknownArgument
  | .operand => .error .unknownCommand

/-- What a command line asks for. -/
def read : List String → Except UsageError Request
  | [] => .error .missingCommand
  | word :: rest =>
    match commandNamed? word with
    | some name => readArguments name { operands := operands name } rest
    | none => if word = "help" then readHelp rest else readFlag word rest

end CommandLine

end ReleaseMatrix
