import ReleaseMatrix.Yaml.Scalar

/-!
# YAML block scalars

A block scalar stands in lines of its own below a header. Its lines are indented as far as the first
of them that is not empty, or as far as the header says, and it ends at the first line that is
indented less. A literal scalar keeps its line breaks. A folded one turns a single line break
between two lines into a space and drops the first of several, unless one of the two lines begins
with a further blank. The header also says what becomes of the line breaks at the end: one of them
is kept, or none, or all.
-/

namespace ReleaseMatrix.Yaml

/-- What becomes of the line breaks at the end of a block scalar. -/
inductive Chomping where
  /-- None of them is kept. -/
  | strip
  /-- The first of them is kept. -/
  | clip
  /-- All of them are kept. -/
  | keep
deriving DecidableEq

/-! ### Headers -/

/-- The chomping that a sign in a header stands for. -/
def chomping? (c : Char) : Option Chomping :=
  if c = '+' then some .keep else if c = '-' then some .strip else none

/-- The indentation that a digit in a header stands for. -/
def indentation? (c : Char) : Option Nat :=
  if '1' ≤ c ∧ c ≤ '9' then some (c.toNat - '0'.toNat) else none

/-- The header of a block scalar. -/
structure BlockHeader where
  /-- What becomes of the line breaks at the end. -/
  chomping : Chomping
  /-- By how many columns the lines are indented, if the header says so. -/
  indentation? : Option Nat
  /-- How many characters the header has. -/
  size : Nat

/-- The header at the beginning of a text: a sign and a digit in any order, or one of them, or
nothing. -/
def readHeader (s : List Char) : BlockHeader :=
  match s.head?.bind chomping?, s.head?.bind indentation? with
  | some chomping, _ =>
    match s.tail.head?.bind indentation? with
    | some n => { chomping, indentation? := some n, size := 2 }
    | none => { chomping, indentation? := none, size := 1 }
  | none, some n =>
    match s.tail.head?.bind chomping? with
    | some chomping => { chomping, indentation? := some n, size := 2 }
    | none => { chomping := .clip, indentation? := some n, size := 1 }
  | none, none => { chomping := .clip, indentation? := none, size := 0 }

/-! ### Lines -/

/-- The text of a block scalar as far as it has been read. -/
structure BlockText where
  /-- The text up to the end of the last line that is not empty, the last character first. -/
  value : List Char := []
  /-- The value of the line break at the end of that line. -/
  lineBreak : List Char := []
  /-- The values of the line breaks of the empty lines behind it. -/
  emptyLines : List Char := []
  /-- Whether that line begins with a further blank. -/
  indented : Bool := false

namespace BlockText

/-- What the line breaks before the next line stand for; `indented` tells whether that line begins
with a further blank. -/
def gap (t : BlockText) (folded indented : Bool) : List Char :=
  if folded ∧ t.lineBreak = ['\n'] ∧ ¬ t.indented ∧ ¬ indented then
    if t.emptyLines = [] then [' '] else t.emptyLines
  else t.lineBreak ++ t.emptyLines

/-- The text with the first character of one more line. -/
def beginLine (t : BlockText) (folded : Bool) (c : Char) : BlockText where
  value := c :: ((t.gap folded (isBlank c)).reverse ++ t.value)
  indented := isBlank c

/-- The value of the scalar when no more lines follow. -/
def finish (t : BlockText) : Chomping → List Char
  | .strip => t.value.reverse
  | .clip => t.value.reverse ++ t.lineBreak
  | .keep => t.value.reverse ++ t.lineBreak ++ t.emptyLines

end BlockText

/-- Reads the lines of a block scalar. `floor` is the least column that they may have, `indent?` the
column where they begin, once it is known, and `deepest` the greatest column that a line so far has
reached without it; `inLine` tells whether the place is inside a line. -/
def readLines (folded : Bool) (floor : Nat) (indent? : Option Nat) (deepest : Nat) (inLine : Bool)
    (t : BlockText) (m : Mark) : List Char → Option (BlockText × Mark × List Char)
  | [] => some (t, m, [])
  | c :: rest =>
    if isBreak c then
      let t := if inLine then { t with lineBreak := breakValue c }
        else { t with emptyLines := t.emptyLines ++ breakValue c }
      readLines folded floor indent? (max deepest m.column) false t m.newLine rest
    else if inLine then
      readLines folded floor indent? deepest true { t with value := c :: t.value } (m.pass c) rest
    else if indent?.all (m.column < ·) && isBlank c then
      if c = ' ' then readLines folded floor indent? deepest false t (m.pass c) rest else none
    else
      let indent := indent?.getD (max (max deepest m.column) (max floor 1))
      if m.column = indent then
        readLines folded floor (some indent) deepest true (t.beginLine folded c) (m.pass c) rest
      else some (t, m, c :: rest)

/-- Reads a block scalar behind its sign, inside a collection whose contents have a column of at
least `floor`. -/
def readBlock (folded : Bool) (floor : Nat) (m : Mark) (s : List Char) : Option ReadScalar := do
  let header := readHeader s
  let (s, m) ← toNextLine false (m.skip header.size) (s.drop header.size)
  let indent? := header.indentation?.map (· + (floor - 1))
  let (t, m, rest) ← readLines folded floor indent? 0 false {} m s
  return { value := t.finish header.chomping, folded := true, mark := m, rest }

end ReleaseMatrix.Yaml
