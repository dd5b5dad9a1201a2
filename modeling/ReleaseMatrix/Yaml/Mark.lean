/-!
# Places in a YAML text

The characters that matter to the layout of a YAML text, and the place of a character in it: layout
goes by lines and columns, which count characters, and the length of an implicit key by bytes.
-/

namespace ReleaseMatrix.Yaml

/-- A space or a tab. -/
def isBlank (c : Char) : Bool := c = ' ' || c = '\t'

/-- A character that ends a line. -/
def isBreak (c : Char) : Bool :=
  c = '\n' || c = '\r' || c.toNat = 0x85 || c.toNat = 0x2028 || c.toNat = 0x2029

/-- The text with one newline for every carriage return and newline, which together are one line
break. -/
def joinReturns : List Char → List Char
  | [] => []
  | '\r' :: '\n' :: rest => '\n' :: joinReturns rest
  | c :: rest => c :: joinReturns rest

/-- What a line break at a character stands for in a value: the two separators of Unicode for
themselves, every other one for a newline. -/
def breakValue (c : Char) : List Char :=
  if c.toNat = 0x2028 ∨ c.toNat = 0x2029 then [c] else ['\n']

/-- Whether a text is at an end, a blank or a line break. -/
def atSpace : List Char → Bool
  | [] => true
  | c :: _ => isBlank c || isBreak c

/-- Whether a character may stand in a YAML text at all. -/
def isAllowed (c : Char) : Bool :=
  c = '\t' || c = '\n' || c = '\r' || (0x20 ≤ c.toNat && c.toNat ≤ 0x7E) || c.toNat = 0x85 ||
    (0xA0 ≤ c.toNat && c.toNat ≤ 0xFFFD) || 0x10000 ≤ c.toNat

/-- Whether a line begins with the mark of a document, three times the same character. -/
def atDocumentMark (c : Char) : List Char → Bool
  | a :: b :: d :: rest => a = c && b = c && d = c && atSpace rest
  | _ => false

/-- The place of a character in a text. -/
structure Mark where
  /-- How many lines are before it. -/
  line : Nat
  /-- How many characters of its line are before it. -/
  column : Nat
  /-- How many bytes those characters take in UTF-8. -/
  offset : Nat
deriving DecidableEq

namespace Mark

/-- The beginning of a text. -/
def start : Mark := { line := 0, column := 0, offset := 0 }

/-- The place behind a character that ends no line. -/
def pass (m : Mark) (c : Char) : Mark :=
  { m with column := m.column + 1, offset := m.offset + c.utf8Size }

/-- The place behind some characters of ASCII that end no line. -/
def skip (m : Mark) (count : Nat) : Mark :=
  { m with column := m.column + count, offset := m.offset + count }

/-- The beginning of the next line. -/
def newLine (m : Mark) : Mark := { line := m.line + 1, column := 0, offset := 0 }

end Mark

/-- Passes blanks and a comment up to the next line or the end of the text; fails if anything else
stands there. -/
def toNextLine (comment : Bool) (m : Mark) : List Char → Option (List Char × Mark)
  | [] => some ([], m)
  | c :: rest =>
    if isBreak c then some (rest, m.newLine)
    else if comment || isBlank c || c = '#' then
      toNextLine (comment || c = '#') (m.pass c) rest
    else none

end ReleaseMatrix.Yaml
