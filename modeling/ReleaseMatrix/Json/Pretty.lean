import ReleaseMatrix.Json.Value

/-!
# JSON text

A value is written over several lines: each item of a list and each field of an object stands on a
line of its own, two spaces further in than the line that opens it. An empty list or object is
written without a line break. In texts only the quote, the backslash and the control characters are
escaped, the common controls by a letter and the others by four hexadecimal digits in lower case.
-/

namespace ReleaseMatrix.Json

/-- The hexadecimal digits of a code point below 256, two of them. -/
def hexPair (n : Nat) : List Char := [Nat.digitChar (n / 16), Nat.digitChar (n % 16)]

/-- The written form of a character inside quotes. -/
def escapeChar (c : Char) : List Char :=
  if c = '\x22' then ['\\', '\x22']
  else if c = '\\' then ['\\', '\\']
  else if c = '\x08' then ['\\', 'b']
  else if c = '\t' then ['\\', 't']
  else if c = '\n' then ['\\', 'n']
  else if c = '\x0c' then ['\\', 'f']
  else if c = '\r' then ['\\', 'r']
  else if c.toNat < 0x20 then ['\\', 'u', '0', '0'] ++ hexPair c.toNat
  else [c]

/-- The written form of a text. -/
def writeString (s : String) : List Char := '\x22' :: s.toList.flatMap escapeChar ++ ['\x22']

/-- A new line at a depth. -/
def newLine (depth : Nat) : List Char := '\n' :: List.replicate (2 * depth) ' '

mutual

/-- The written form of a value whose first line stands at a depth. -/
def write (depth : Nat) : Json → List Char
  | .null => "null".toList
  | .bool true => "true".toList
  | .bool false => "false".toList
  | .natural n => Nat.toDigits 10 n
  | .number written => written.toList
  | .string s => writeString s
  | .array [] => ['[', ']']
  | .array (item :: items) =>
    '[' :: newLine (depth + 1) ++ write (depth + 1) item ++ writeItems (depth + 1) items ++
      newLine depth ++ [']']
  | .object [] => ['\x7b', '\x7d']
  | .object (field :: fields) =>
    '\x7b' :: newLine (depth + 1) ++ writeField (depth + 1) field ++
      writeFields (depth + 1) fields ++ newLine depth ++ ['\x7d']

/-- The written form of the items behind the first. -/
def writeItems (depth : Nat) : List Json → List Char
  | [] => []
  | item :: items => ',' :: newLine depth ++ write depth item ++ writeItems depth items

/-- The written form of a field. -/
def writeField (depth : Nat) : String × Json → List Char
  | (name, value) => writeString name ++ [':', ' '] ++ write depth value

/-- The written form of the fields behind the first. -/
def writeFields (depth : Nat) : List (String × Json) → List Char
  | [] => []
  | field :: fields => ',' :: newLine depth ++ writeField depth field ++ writeFields depth fields

end

/-- The text of a value. -/
def pretty (v : Json) : String := String.ofList (write 0 v)

end ReleaseMatrix.Json
