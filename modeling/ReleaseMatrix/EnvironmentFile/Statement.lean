import ReleaseMatrix.Text.Blank
import ReleaseMatrix.Text.Lines

/-!
# The statements of an environment file

A statement is a line, or several lines where a quote that is opened on one of them is closed on a
later one. Behind a backslash a quote has no meaning. A number sign begins a comment in front of all
but white space, and behind a white space character outside of quotes; of a row of such characters
only every other one counts, beginning with the first.

A statement ends with a line behind which no quote is open and nothing else is waited for; a file
that ends in a backslash or in white space that counts leaves its last statement open. What is left
open at the end of the file is no statement.
-/

namespace ReleaseMatrix.EnvironmentFile

open Text

/-- The quotes in which a character stands. -/
inductive Quoting where
  /-- None. -/
  | plain
  /-- Single quotes. -/
  | single
  /-- Double quotes. -/
  | double
deriving DecidableEq

/-- The quotes that are open behind a character, if a quote has its meaning there. -/
def Quoting.next : Quoting → Char → Quoting
  | .plain, c => if c = '\x27' then .single else if c = '\x22' then .double else .plain
  | .single, c => if c = '\x27' then .plain else .single
  | .double, c => if c = '\x22' then .plain else .double

/-- What the characters in front of a place say about the character there. -/
inductive Place where
  /-- Nothing but that some quotes are open. -/
  | within (quoting : Quoting)
  /-- It stands behind a backslash. -/
  | escaped (quoting : Quoting)
  /-- It stands behind white space outside of quotes. -/
  | spaced
deriving DecidableEq

/-- The place behind a character. -/
def Place.next : Place → Char → Place
  | .escaped quoting, _ => .within quoting
  | .spaced, c => if c = '\\' then .escaped .plain else .within (Quoting.plain.next c)
  | .within quoting, c =>
    if c = '\\' then .escaped quoting
    else if quoting = .plain ∧ isBlank c ∧ c ≠ '\n' ∧ c ≠ '\r' then .spaced
    else .within (quoting.next c)

/-- The place where a statement may begin or end. -/
def Place.free : Place := .within .plain

/-- The place behind a line that begins at a place, and the line without the comment at its end. -/
def scanLine (place : Place) : List Char → Place × List Char
  | [] => (place, [])
  | c :: rest =>
    if place = .spaced ∧ c = '#' then (.free, [])
    else
      let (behind, kept) := scanLine (place.next c) rest
      (behind, c :: kept)

/-- The statements of some lines, where `begun` are the lines before them of a statement that is
still open, and `place` is the place behind those. -/
def statementsFrom (begun : List Char) (place : Place) : List (List Char) → List (List Char)
  | [] => []
  | line :: rest =>
    if (trimStart (begun ++ line)).head? = some '#' then statementsFrom [] .free rest
    else
      let (behind, kept) := scanLine place line
      if behind = .free then (begun ++ kept) :: statementsFrom [] .free rest
      else statementsFrom (begun ++ kept) behind rest

/-- The statements of a text. -/
def statements (text : List Char) : List (List Char) := statementsFrom [] .free (endedLines text)

end ReleaseMatrix.EnvironmentFile
