import ReleaseMatrix.Program

/-!
# Running the program

Carries out the script of the program in the world.
-/

namespace ReleaseMatrix

/-- The reason behind an error of the operating system. An entry of the wrong type is a directory if
the error has the number 21, which may be negated, and a file on the way otherwise. -/
def ReadError.ofSystem : IO.Error → ReadError
  | .noFileOrDirectory .. => .notFound
  | .inappropriateType _ code _ =>
    if code.toNat = 21 ∨ code.toNat + 21 = 0x100000000 then .isDirectory else .notDirectory
  | e => .other e.toString

/-- Reads the text of a file. -/
def readText (path : String) : IO (Except ReadError String) := do
  try
    return textOf (← IO.FS.readBinFile path)
  catch e => return .error (.ofSystem e)

/-- The number of directories from the working directory up to the root; zero if the working
directory is not known. -/
def countDirectories : IO Nat := do
  try
    let directory := toString (← IO.currentDir)
    return ((FileTree.components directory).filter (· ≠ "")).length + 1
  catch _ => return 0

/-- Carries out a script. -/
def Script.perform {ε α : Type} : Script ε α → IO (Except ε α)
  | .done value => return .ok value
  | .fail e => return .error e
  | .read path next => do perform (next (← readText path))
  | .lookUp name next => do perform (next (← IO.getEnv name))
  | .write text next => do
    IO.print text
    next.perform

end ReleaseMatrix

/-- Runs the program. -/
def main (words : List String) : IO UInt32 := do
  let directories ← ReleaseMatrix.countDirectories
  match ← (ReleaseMatrix.Program.script directories words).perform with
  | .ok () => return 0
  | .error e =>
    IO.eprint (ReleaseMatrix.Program.errorText e)
    return (ReleaseMatrix.Program.exitCode e).toUInt32
