import Mathlib.Control.Monad.Basic
import ReleaseMatrix.Program

/-!
# Output comes last

Tools read what the program writes, so a command that fails must not have written anything. A
script is a tree of the readings, look-ups and writings that it may come to, and whether it may
still fail behind a writing can be seen from the tree, whatever the files and variables hold. All of
the work of a command, from the config file to the check of the published versions, is silent; the
one text that it writes is the last thing that it does.

## What is proved

* `Script.Silent.output_eq`, `Script.WritesLast.output_eq_of_error`: what the shape of a script says
  of its runs.
* `Command.output_eq_of_failure`: a command that fails has written nothing.
* `Program.output_eq_of_exit`: nor has a program that ends with an exit code other than zero.
-/

namespace ReleaseMatrix

/-! ### The shape of a script -/

namespace Script

variable {ε ε' α β : Type} {s : Script ε α} {around : Surroundings}

/-- A script that never comes to a writing, whatever the files and the variables hold. -/
inductive Silent : Script ε α → Prop where
  /-- The end in a value. -/
  | done (a : α) : Silent (.done a)
  /-- The end in an error. -/
  | fail (e : ε) : Silent (.fail e)
  /-- A reading, behind which it is silent whatever is read. -/
  | read {path : String} {next : Except ReadError String → Script ε α}
      (h : ∀ text, Silent (next text)) : Silent (.read path next)
  /-- A look-up, behind which it is silent whatever is found. -/
  | lookUp {name : String} {next : Option String → Script ε α}
      (h : ∀ value?, Silent (next value?)) : Silent (.lookUp name next)

/-- A script that comes to at most one writing, and then ends in a value. -/
inductive WritesLast : Script ε α → Prop where
  /-- The end in a value. -/
  | done (a : α) : WritesLast (.done a)
  /-- The end in an error. -/
  | fail (e : ε) : WritesLast (.fail e)
  /-- A reading, whatever is read. -/
  | read {path : String} {next : Except ReadError String → Script ε α}
      (h : ∀ text, WritesLast (next text)) : WritesLast (.read path next)
  /-- A look-up, whatever is found. -/
  | lookUp {name : String} {next : Option String → Script ε α}
      (h : ∀ value?, WritesLast (next value?)) : WritesLast (.lookUp name next)
  /-- A writing, with nothing behind it. -/
  | write (text : String) (a : α) : WritesLast (.write text (.done a))

/-! ### Silent scripts -/

theorem Silent.bind {f : α → Script ε β} (h : s.Silent) (hf : ∀ a, (f a).Silent) :
    (s >>= f).Silent := by
  rw [bind_def]
  induction h with
  | done a => exact hf a
  | fail e => exact .fail e
  | read _ ih => exact .read ih
  | lookUp _ ih => exact .lookUp ih

theorem Silent.mapError {f : ε → ε'} (h : s.Silent) : (s.mapError f).Silent := by
  induction h with
  | done a => exact .done a
  | fail e => exact .fail (f e)
  | read _ ih => exact .read ih
  | lookUp _ ih => exact .lookUp ih

theorem silent_ofExcept (r : Except ε α) : (ofExcept r).Silent := by
  cases r with
  | ok a => exact .done a
  | error e => exact .fail e

theorem silent_readFile (path : String) (error : ReadError → ε) :
    (readFile path error).Silent := by
  refine .read fun text => ?_
  cases text with
  | ok text => exact .done text
  | error e => exact .fail _

/-- A silent script writes nothing. -/
theorem Silent.output_eq (h : s.Silent) : s.output around = "" := by
  induction h with
  | done a => rfl
  | fail e => rfl
  | read _ ih => exact ih _
  | lookUp _ ih => exact ih _

/-- A silent script runs to its result. -/
theorem Silent.run_eq (h : s.Silent) : s.run around = ("", s.result around) :=
  Prod.ext h.output_eq rfl

/-! ### Scripts that write last -/

/-- Behind a silent script the writing may come. -/
theorem Silent.bind_writesLast {f : α → Script ε β} (h : s.Silent) (hf : ∀ a, (f a).WritesLast) :
    (s >>= f).WritesLast := by
  rw [bind_def]
  induction h with
  | done a => exact hf a
  | fail e => exact .fail e
  | read _ ih => exact .read ih
  | lookUp _ ih => exact .lookUp ih

theorem WritesLast.mapError {f : ε → ε'} (h : s.WritesLast) : (s.mapError f).WritesLast := by
  induction h with
  | done a => exact .done a
  | fail e => exact .fail (f e)
  | read _ ih => exact .read ih
  | lookUp _ ih => exact .lookUp ih
  | write text a => exact .write text a

theorem writesLast_put (text : String) : (put text : Script ε Unit).WritesLast := .write text ()

/-- A script that writes last and ends in an error has written nothing. -/
theorem WritesLast.output_eq_of_error (h : s.WritesLast) {e : ε}
    (herror : s.result around = .error e) : s.output around = "" := by
  induction h with
  | done a => rfl
  | fail e => rfl
  | read _ ih => exact ih _ herror
  | lookUp _ ih => exact ih _ herror
  | write text a => cases herror

end Script

/-! ### The work of a command -/

open Script

theorem Properties.silent_read (path key : String) : (read path key).Silent :=
  (silent_readFile _ _).bind fun _ => .done _

namespace VersionSources

variable (sources : VersionSources)

theorem silent_currentFromProperties (path : String) :
    (sources.currentFromProperties path).Silent := by
  refine (Properties.silent_read _ _).bind fun value => ?_
  cases value with
  | none => exact .fail _
  | some value => exact silent_ofExcept _

theorem silent_resolveCurrent (variableValue : Option String) :
    (sources.resolveCurrent variableValue).Silent := by
  unfold resolveCurrent
  split
  · exact silent_ofExcept _
  · exact .done _
  · exact sources.silent_currentFromProperties _
  · exact .fail _

end VersionSources

namespace Config

theorem silent_load (path : String) : (load path).Silent := by
  refine (silent_readFile _ _).bind fun text => ?_
  cases ofText? text with
  | none => exact .fail _
  | some config => exact .done _

theorem silent_loadMatrix (config : Config) (variableValue : Option String) :
    (config.loadMatrix variableValue).Silent :=
  (config.versions.silent_resolveCurrent variableValue).bind fun _ =>
    (silent_readFile _ _).bind fun _ => silent_ofExcept _

end Config

theorem Published.silent_read (path : String) : (read path).Silent :=
  (silent_readFile _ _).bind fun _ => silent_ofExcept _

theorem Matrix.silent_check (m : Matrix) (path : String) : (m.check path).Silent :=
  (Published.silent_read path).mapError.bind fun _ => silent_ofExcept _

namespace Command

variable {variableValue : Option String} {around : Surroundings}

/-- Every command writes last. -/
theorem writesLast_script (command : Command) : (command.script variableValue).WritesLast := by
  cases command with
  | matrix config format =>
    refine (Config.silent_load config).bind_writesLast fun settings => ?_
    exact (settings.silent_loadMatrix variableValue).bind_writesLast fun m => writesLast_put _
  | info config version =>
    refine (Config.silent_load config).bind_writesLast fun settings => ?_
    refine (settings.silent_loadMatrix variableValue).bind_writesLast fun m => ?_
    exact (silent_ofExcept _).bind_writesLast fun text => writesLast_put text
  | previousUnreleased config path =>
    refine (silent_ofExcept (chooseProject path)).bind_writesLast fun project => ?_
    refine (Config.silent_load config).bind_writesLast fun settings => ?_
    exact (settings.silent_loadMatrix variableValue).bind_writesLast fun m => writesLast_put _
  | check config given =>
    refine (Config.silent_load config).bind_writesLast fun settings => ?_
    refine (silent_ofExcept (choosePublished given settings)).bind_writesLast fun path => ?_
    refine (settings.silent_loadMatrix variableValue).bind_writesLast fun m => ?_
    exact (m.silent_check path).mapError.bind_writesLast fun _ => writesLast_put _

/-- **A command that fails has written nothing**, whatever it was asked for, whatever the files and
the environment variable hold, and wherever it failed. -/
theorem output_eq_of_failure (command : Command) (variableValue : Option String)
    (around : Surroundings) {reason : Failure}
    (h : (command.script variableValue).result around = .error reason) :
    (command.script variableValue).output around = "" :=
  command.writesLast_script.output_eq_of_error h

/-- Files that declare and configure the first release of a build, which is published already. -/
def firstRelease : Surroundings where
  files
    | "bwc.yaml" => .ok "versions:\n  declarations: Version.java\n  current: 1.0.0\n"
    | "Version.java" => .ok "  public static final Version V_1_0_0 = new Version(1000099);\n"
    | "published.txt" => .ok "# central\n1.0.0\n"
    | _ => .error .notFound
  environment _ := none

/-- A check that gets as far as the last step and fails there, since the version in development is
published, has written nothing. -/
theorem output_eq_of_failure_firstRelease :
    ((check "bwc.yaml" (some "published.txt")).script none).result firstRelease =
      .error (.check (.outOfDate ⟨[], [.of 1 0 0]⟩)) ∧
    ((check "bwc.yaml" (some "published.txt")).script none).output firstRelease = "" := by
  have h : ((check "bwc.yaml" (some "published.txt")).script none).result firstRelease =
      .error (.check (.outOfDate ⟨[], [.of 1 0 0]⟩)) := by
    decide +kernel
  exact ⟨h, output_eq_of_failure _ none firstRelease h⟩

end Command

/-! ### The program -/

namespace EnvironmentFile

variable {ε : Type}

theorem silent_expand (known : List Setting) (pieces : List Piece) :
    (expand known pieces : Script ε (List Char)).Silent := by
  induction pieces with
  | nil => exact .done _
  | cons piece rest ih =>
    cases piece with
    | character c => exact ih.bind fun _ => .done _
    | reference name => exact .lookUp fun _ => ih.bind fun _ => .done _

theorem silent_settings (assignments : List Assignment) (known : List Setting) :
    (settings known assignments : Script ε (List Setting)).Silent := by
  induction assignments generalizing known with
  | nil => exact .done known
  | cons assignment rest ih => exact (silent_expand known _).bind fun _ => ih _

theorem silent_value? (text name : String) :
    (value? text name : Script ε (Option String)).Silent :=
  (silent_settings _ _).bind fun _ => .done _

theorem silent_findText (paths : List String) :
    (findText paths : Script ε (Option String)).Silent := by
  induction paths with
  | nil => exact .done none
  | cons path rest ih =>
    refine .read fun text => ?_
    split
    · exact .done _
    · exact .done _
    · exact ih
    · exact ih
    · exact .done _

end EnvironmentFile

namespace Program

theorem silent_currentVariable (directories : Nat) : (currentVariable directories).Silent := by
  refine .lookUp fun value? => ?_
  cases value? with
  | some value => exact .done _
  | none =>
    refine (EnvironmentFile.silent_findText _).bind fun text? => ?_
    cases text? with
    | some text => exact EnvironmentFile.silent_value? _ _
    | none => exact .done _

theorem writesLast_script (directories : Nat) (words : List String) :
    (script directories words).WritesLast := by
  refine (silent_ofExcept _).bind_writesLast fun request => ?_
  cases request with
  | help topic => exact writesLast_put _
  | version => exact writesLast_put _
  | run command => exact (silent_currentVariable directories).bind_writesLast fun _ =>
      command.writesLast_script.mapError

/-- A program that ends with an exit code other than zero has written nothing to standard output. -/
theorem output_eq_of_exit {directories : Nat} {around : Surroundings} {words : List String}
    (h : (outcome directories around words).exit ≠ 0) :
    (outcome directories around words).output = "" := by
  unfold outcome at h ⊢
  split at h
  · exact absurd rfl h
  · rename_i output e hrun
    have herror : (script directories words).result around = .error e := congrArg Prod.snd hrun
    have houtput : (script directories words).output around = output := congrArg Prod.fst hrun
    exact houtput ▸ (writesLast_script directories words).output_eq_of_error herror

end Program

end ReleaseMatrix
