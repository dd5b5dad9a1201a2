import ReleaseMatrix.Script
import ReleaseMatrix.Text.Lines
import ReleaseMatrix.Text.Quoted
import ReleaseMatrix.Version.Text

/-!
# Published versions

An authoritative list of the versions that are published is a file with one version on a line. Blank
lines and lines that begin with `#` are passed over; the order of the lines and repetitions are
kept. The first line that is no version makes the whole list invalid, and the error names it by its
number in the file.
-/

namespace ReleaseMatrix

open Text

/-- Why the published versions are not known. -/
inductive PublishedError where
  /-- The file cannot be read. -/
  | unreadable (path : String) (reason : ReadError)
  /-- A line is no version; the first line has the number one. -/
  | malformed (line : Nat) (reason : VersionError)
deriving DecidableEq

namespace PublishedError

/-- The wording of the reason behind the error. -/
def cause : PublishedError → String
  | .unreadable _ reason => reason.message
  | .malformed _ reason => reason.message

/-- The wording of the error. -/
def message : PublishedError → String
  | .unreadable path reason =>
    "failed to read released versions from " ++ quoted path ++ ": " ++ reason.message
  | .malformed line reason =>
    "invalid released version on line " ++ line.repr ++ ": " ++ reason.message

end PublishedError

namespace Published

/-- Whether a trimmed line lists a version: it is neither empty nor a comment. -/
def isListed (line : List Char) : Bool := line ≠ [] && line.head? ≠ some '#'

/-- The trimmed lines of a text that list versions, with their numbers. -/
def listed (text : String) : List (List Char × Nat) :=
  (((lines text.toList).map trim).zipIdx 1).filter fun entry => isListed entry.1

/-- The versions that a text lists. -/
def ofText (text : String) : Except PublishedError (List Version) :=
  (listed text).mapM fun (line, number) =>
    (Version.ofText (String.ofList line)).mapError (.malformed number)

/-- Reads the versions that a file lists. -/
def read (path : String) : Script PublishedError (List Version) := do
  Script.ofExcept (ofText (← Script.readFile path (.unreadable path)))

end Published

end ReleaseMatrix
