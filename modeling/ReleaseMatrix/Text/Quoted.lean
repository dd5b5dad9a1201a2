import ReleaseMatrix.Text.Visible

/-!
# Quoted text

A text in double quotes, as messages show paths: the quote, the backslash and the common controls
are escaped by a backslash and a letter, every other character that is not shown as it is by its
code point.
-/

namespace ReleaseMatrix.Text

/-- The written form of a character inside quotes. -/
def quotedChar (c : Char) : List Char :=
  if c = '\x00' then ['\\', '0']
  else if c = '\t' then ['\\', 't']
  else if c = '\n' then ['\\', 'n']
  else if c = '\r' then ['\\', 'r']
  else if c = '\x22' then ['\\', '\x22']
  else if c = '\\' then ['\\', '\\']
  else if isVisible c then [c]
  else ['\\', 'u', '\x7b'] ++ Nat.toDigits 16 c.toNat ++ ['\x7d']

/-- The text in double quotes. -/
def quoted (s : String) : String :=
  String.ofList ('\x22' :: s.toList.flatMap quotedChar ++ ['\x22'])

end ReleaseMatrix.Text
