import ReleaseMatrix.Text.Blank
import ReleaseMatrix.Text.Cut
import ReleaseMatrix.Text.Lines

/-!
# Properties

A properties file gives values to keys. An entry stands on a line of its own, `key = value` or `key:
value`; its first separator is the one that counts, and white space around the line, the key and the
value does not. Lines that begin with `#` or `!` are comments, and lines without a separator mean
nothing. The first entry with a key counts.
-/

namespace ReleaseMatrix.Properties

open Text

/-- Whether a character parts a key from its value. -/
def isSeparator (c : Char) : Bool := c = '=' || c = ':'

/-- Whether a trimmed line is a comment. -/
def isComment (line : List Char) : Bool := line.head? = some '#' || line.head? = some '!'

/-- The key and the value on a line, if it is an entry. -/
def entry? (line : List Char) : Option (List Char × List Char) :=
  if isComment (trim line) then none
  else (cut? isSeparator (trim line)).map fun (key, value) => (trim key, trim value)

/-- The entries of a properties file. -/
def entries (text : String) : List (List Char × List Char) :=
  (lines text.toList).filterMap entry?

/-- The value of a key. -/
def value? (text key : String) : Option String :=
  ((entries text).lookup key.toList).map String.ofList

end ReleaseMatrix.Properties
