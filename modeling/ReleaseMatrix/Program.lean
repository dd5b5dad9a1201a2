import ReleaseMatrix.EnvironmentFile
import ReleaseMatrix.Help

/-!
# The program

The program as one script: it reads the command line, looks for the variable that may set the
current version, and carries out what is asked for. A variable of the environment comes before one
that an environment file sets, which is looked for in the working directory and above it.
-/

namespace ReleaseMatrix

/-- Why the program ends without success. -/
inductive ProgramError where
  /-- The command line asks for nothing. -/
  | usage (error : UsageError)
  /-- The command fails. -/
  | failure (reason : Failure)
deriving DecidableEq

namespace UsageError

/-- The wording of the error. -/
def message : UsageError → String
  | .missingCommand => "a command is needed"
  | .unknownCommand => "there is no such command"
  | .unknownArgument => "the command line has a word that fits nothing"
  | .unexpectedValue => "a flag takes no value"
  | .invalidValue => "an option has no value or an invalid one"
  | .invalidVersion => "the version to look up is invalid"
  | .repeatedOption => "an option is given twice"
  | .missingArgument => "a needed argument is missing"

end UsageError

namespace Program

/-- The name and the version of the program. -/
def versionLine : String := "bwc-matrix 0.1.0\n"

/-- The text that shows an error. -/
def errorText : ProgramError → String
  | .usage error => "error: " ++ error.message ++ "\n"
  | .failure reason => reason.report

/-- The exit code that tells of an error. -/
def exitCode : ProgramError → Nat
  | .usage _ => 2
  | .failure _ => 1

/-- The value of the variable for the current version. An environment file is looked for in a number of
directories, the working directory and those above it. -/
def currentVariable (directories : Nat) : Script ProgramError (Option String) :=
  .lookUp currentVersionVariable fun
    | some value => .done (some value)
    | none => do
      match ← EnvironmentFile.findText (EnvironmentFile.paths directories) with
      | some text => EnvironmentFile.value? text currentVersionVariable
      | none => return none

/-- The program, with the number of directories from the working directory up to the root and the
words of the command line. -/
def script (directories : Nat) (words : List String) : Script ProgramError Unit := do
  match ← Script.ofExcept ((CommandLine.read words).mapError .usage) with
  | .help topic => Script.put topic.text
  | .version => Script.put versionLine
  | .run command => (command.script (← currentVariable directories)).mapError .failure

/-- What a run of the program leaves behind. -/
structure Outcome where
  /-- The exit code. -/
  exit : Nat
  /-- What is written to standard output. -/
  output : String
  /-- What is written to standard error. -/
  errors : String
deriving DecidableEq

/-- What a run of the program in given surroundings leaves behind, with the number of directories from
the working directory up to the root. -/
def outcome (directories : Nat) (around : Surroundings) (words : List String) : Outcome :=
  match (script directories words).run around with
  | (output, .ok ()) => { exit := 0, output, errors := "" }
  | (output, .error e) => { exit := exitCode e, output, errors := errorText e }

/-- What a run of the program in given surroundings leaves behind, if nothing of use to it lies
above the working directory. -/
def run (around : Surroundings) (words : List String) : Outcome := outcome 1 around words

section Above

variable {around : Surroundings} {above : Nat}
  (h : ∀ path ∈ (EnvironmentFile.paths (above + 1)).tail, around.files path = .error .notFound)

include h

theorem run_currentVariable_above :
    (currentVariable (above + 1)).run around = (currentVariable 1).run around := by
  have hpaths : EnvironmentFile.paths (above + 1) =
      EnvironmentFile.paths 1 ++ (EnvironmentFile.paths (above + 1)).tail := by
    simp [EnvironmentFile.paths, List.range_succ_eq_map]
  rw [currentVariable, currentVariable, Script.run, Script.run]
  cases around.environment currentVersionVariable with
  | some value => rfl
  | none =>
    simp only [Script.run_bind]
    rw [hpaths, EnvironmentFile.run_findText_append h]

/-- Without environment files above the working directory, the directories there do not matter. -/
theorem outcome_eq_run (words : List String) :
    outcome (above + 1) around words = run around words := by
  have hscript : (script (above + 1) words).run around = (script 1 words).run around := by
    simp only [script, Script.run_bind]
    split
    · rfl
    · rename_i request _
      cases request with
      | help topic => rfl
      | version => rfl
      | run command => simp only [Script.run_bind, run_currentVariable_above h]
  rw [run, outcome, outcome, hscript]

end Above

end Program

end ReleaseMatrix
