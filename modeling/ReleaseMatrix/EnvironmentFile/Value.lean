import ReleaseMatrix.EnvironmentFile.Statement
import ReleaseMatrix.Text.Alphanumeric

/-!
# The values in an environment file

A value, or a part of it, may stand in quotes. Outside of single quotes a backslash keeps the next
character from its meaning, and a dollar sign refers to a variable: by the letters and digits behind
it, or by the name in braces behind it. The character that ends such a reference belongs to the
value whatever it is, unless it is another dollar sign. A value ends at a blank outside of quotes,
behind which only a comment may follow.
-/

namespace ReleaseMatrix.EnvironmentFile

open Text

/-- A part of a value. -/
inductive Piece where
  /-- A character that stands for itself. -/
  | character (c : Char)
  /-- A reference to a variable. -/
  | reference (name : List Char)
deriving DecidableEq

/-- How the next character of a value is to be taken. -/
inductive Reading where
  /-- As a part of the value, inside some quotes. -/
  | within (quoting : Quoting)
  /-- As a part of a reference inside some quotes, whose name so far is given last letter first. -/
  | reference (quoting : Quoting) (braced : Bool) (name : List Char)
  /-- As a part of what is behind the value. -/
  | ended
deriving DecidableEq

/-- The character that stands for itself, or for a newline, behind a backslash. -/
def escaped? (c : Char) : Option Char :=
  if c = 'n' then some '\n'
  else if c = '\\' ∨ c = '\x27' ∨ c = '\x22' ∨ c = '$' ∨ c = ' ' then some c
  else none

/-- The pieces of the value that a text writes. The name of a reference is read last letter
first. -/
def readValue : Reading → List Char → Option (List Piece)
  | .within .plain, [] | .ended, [] => some []
  | .reference .plain false name, [] => some [.reference name.reverse]
  | _, [] => none
  | .ended, c :: rest =>
    if c = '#' then some [] else if c = ' ' ∨ c = '\t' then readValue .ended rest else none
  | .within .single, c :: rest =>
    if c = '\x27' then readValue (.within .plain) rest
    else (readValue (.within .single) rest).map (.character c :: ·)
  | .reference quoting braced name, c :: rest =>
    if isAlphanumeric c then readValue (.reference quoting braced (c :: name)) rest
    else if braced then
      if c = '\x7d' then (readValue (.within quoting) rest).map (.reference name.reverse :: ·)
      else readValue (.reference quoting true (c :: name)) rest
    else if c = '\x7b' ∧ name = [] then readValue (.reference quoting true []) rest
    else if c = '$' then
      (readValue (.reference quoting false []) rest).map (.reference name.reverse :: ·)
    else
      (readValue (.within quoting) rest).map fun pieces =>
        .reference name.reverse :: .character c :: pieces
  | .within quoting, ['\\'] => readValue (.within quoting) []
  | .within quoting, '\\' :: c :: rest => do
    return .character (← escaped? c) :: (← readValue (.within quoting) rest)
  | .within quoting, c :: rest =>
    if c = '$' then readValue (.reference quoting false []) rest
    else if quoting = .plain ∧ (c = ' ' ∨ c = '\t') then readValue .ended rest
    else if quoting.next c ≠ quoting then readValue (.within (quoting.next c)) rest
    else (readValue (.within quoting) rest).map (.character c :: ·)

end ReleaseMatrix.EnvironmentFile
