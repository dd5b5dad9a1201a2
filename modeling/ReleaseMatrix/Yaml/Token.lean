import ReleaseMatrix.Yaml.BlockScalar
import ReleaseMatrix.Yaml.Property

/-!
# YAML tokens

A text as the tokens of its structure. Indentation is turned into tokens that open and close block
collections: a collection opens where an entry or a key stands further in than the collection around
it, and closes where a line stands further out. A scalar or flow collection turns out to be a key
only at the colon behind it, on the same line and at most 1024 bytes on; the token of the key is
then put in front of it.

Anchors are known by numbers here: the number of an anchor is the number of different names that
anchors before it have. So an anchor whose name has been used before may share its number with
another one. An alias has the number of the last anchor of its name before it.
-/

namespace ReleaseMatrix.Yaml

/-- A token of the structure of a YAML text. -/
inductive Token where
  /-- A directive before a document. -/
  | directive (value : Directive)
  /-- The mark `---`. -/
  | documentStart
  /-- The mark `...`. -/
  | documentEnd
  /-- Opens a list whose entries stand in lines of their own. -/
  | blockSequence
  /-- Opens a table whose keys stand in lines of their own. -/
  | blockMapping
  /-- Closes the innermost open block collection. -/
  | blockEnd
  /-- Stands before an entry of a block list. -/
  | entry
  /-- Stands before a key. -/
  | key
  /-- Stands before the value of a key. -/
  | value
  /-- The bracket `[`. -/
  | flowSequence
  /-- The bracket `]`. -/
  | flowSequenceEnd
  /-- The opening brace. -/
  | flowMapping
  /-- The closing brace. -/
  | flowMappingEnd
  /-- The comma between entries of a flow collection. -/
  | separator
  /-- The anchor of the node behind it. -/
  | anchor (number : Nat)
  /-- The tag of the node behind it. -/
  | tag (value : WrittenTag)
  /-- Stands for the node with an anchor. -/
  | alias (number : Nat)
  /-- A scalar. -/
  | scalar (style : ScalarStyle) (value : List Char)
deriving DecidableEq

/-- The place where a key may have begun. -/
structure PossibleKey where
  /-- Whether a key has to begin there, since the line stands where the keys of a table do. -/
  required : Bool
  /-- How many tokens are before it. -/
  position : Nat
  /-- The place in the text. -/
  mark : Mark

/-- The tokens read so far and what is needed to read on. -/
structure Scan where
  /-- The text that is left. -/
  rest : List Char
  /-- The place of that text. -/
  mark : Mark
  /-- The least column of what is inside the innermost open block collection; zero outside of all.
  -/
  floor : Nat
  /-- The floors of the block collections around it. -/
  outer : List Nat
  /-- Whether a key may begin here. -/
  keyAllowed : Bool
  /-- Where a key may have begun, in each open flow collection and outside of all, the innermost
  first. -/
  keys : List (Option PossibleKey)
  /-- The names of the anchors, each with the number of the last anchor of that name. -/
  anchors : List (List Char × Nat)
  /-- The tokens, the last first. -/
  tokens : List Token

namespace Scan

/-- The beginning of a text. -/
def start (text : List Char) : Scan where
  rest := text
  mark := .start
  floor := 0
  outer := []
  keyAllowed := true
  keys := [none]
  anchors := []
  tokens := []

/-- Whether a flow collection is open. -/
def inFlow (s : Scan) : Bool := 1 < s.keys.length

/-- One more token. -/
def emit (s : Scan) (t : Token) : Scan := { s with tokens := t :: s.tokens }

/-- One more token, put behind the first `position` ones. -/
def emitAt (s : Scan) (position : Nat) (t : Token) : Scan :=
  let behind := s.tokens.length - position
  { s with tokens := s.tokens.take behind ++ t :: s.tokens.drop behind }

/-- Passes some characters of ASCII that end no line. -/
def advance (s : Scan) (count : Nat) : Scan :=
  { s with rest := s.rest.drop count, mark := s.mark.skip count }

/-! ### Blanks and comments -/

/-- Passes blanks, comments and line breaks, and the byte order mark at the beginning of a line,
which takes up a column. Outside of flow collections a tab is no blank where a key may begin, and
every line break lets a key begin. -/
def skipSpace (flow : Bool) (keyAllowed comment : Bool) (m : Mark) :
    List Char → List Char × Mark × Bool
  | [] => ([], m, keyAllowed)
  | c :: rest =>
    if isBreak c then skipSpace flow (keyAllowed || ! flow) false m.newLine rest
    else if comment then skipSpace flow keyAllowed true (m.pass c) rest
    else if c = ' ' || c = '\t' && (flow || ! keyAllowed) then
      skipSpace flow keyAllowed false (m.pass c) rest
    else if c = '#' then skipSpace flow keyAllowed true (m.pass c) rest
    else if c.toNat = 0xFEFF && m.column = 0 then skipSpace flow keyAllowed false (m.pass c) rest
    else (c :: rest, m, keyAllowed)

/-- Passes all that stands before the next token. -/
def toToken (s : Scan) : Scan :=
  let (rest, mark, keyAllowed) := skipSpace s.inFlow s.keyAllowed false s.mark s.rest
  { s with rest, mark, keyAllowed }

/-! ### Block collections -/

/-- The tokens that close block collections until the floor is at most `limit`, with the floors
then. -/
def closing (limit : Nat) (floor : Nat) : List Nat → List Token × Nat × List Nat
  | [] => ([], floor, [])
  | next :: outer =>
    if limit < floor then
      let (tokens, floor, outer) := closing limit next outer
      (.blockEnd :: tokens, floor, outer)
    else ([], floor, next :: outer)

/-- Closes the block collections whose contents stand further in than `limit`. -/
def closeTo (s : Scan) (limit : Nat) : Scan :=
  if s.inFlow then s
  else
    let (tokens, floor, outer) := closing limit s.floor s.outer
    { s with floor, outer, tokens := tokens ++ s.tokens }

/-- Opens a block collection at a column, unless one is open there already. -/
def openBlock (s : Scan) (column position : Nat) (t : Token) : Scan :=
  if s.inFlow ∨ column < s.floor then s
  else { s.emitAt position t with floor := column + 1, outer := s.floor :: s.outer }

/-! ### Keys -/

/-- Gives up the possible key of the innermost collection; fails if a key had to begin there. -/
def dropKey (s : Scan) : Option Scan :=
  match s.keys with
  | some key :: outer => if key.required then none else some { s with keys := none :: outer }
  | _ => some s

/-- Notes that a key may begin here. -/
def noteKey (s : Scan) : Option Scan :=
  if s.keyAllowed then do
    let s ← s.dropKey
    let key := {
      required := ! s.inFlow && s.floor = s.mark.column + 1
      position := s.tokens.length
      mark := s.mark }
    return { s with keys := some key :: s.keys.tail }
  else some s

/-- Whether a possible key is still near enough. -/
def isNear (s : Scan) (key : PossibleKey) : Bool :=
  key.mark.line = s.mark.line && s.mark.offset ≤ key.mark.offset + 1024

/-! ### Tokens -/

/-- Opens a flow collection. -/
def openFlow (s : Scan) (t : Token) : Option Scan := do
  let s ← s.noteKey
  return { (s.emit t).advance 1 with keys := none :: s.keys, keyAllowed := true }

/-- Closes a flow collection. -/
def closeFlow (s : Scan) (t : Token) : Option Scan := do
  let s ← s.dropKey
  let keys := if s.inFlow then s.keys.tail else s.keys
  return { (s.emit t).advance 1 with keys, keyAllowed := false }

/-- Passes the comma between entries of a flow collection. -/
def separate (s : Scan) : Option Scan := do
  let s ← s.dropKey
  return { (s.emit .separator).advance 1 with keyAllowed := true }

/-- Passes the mark of a document. -/
def markDocument (s : Scan) (t : Token) : Option Scan := do
  let s ← (s.closeTo 0).dropKey
  return { (s.emit t).advance 3 with keyAllowed := false }

/-- Passes the hyphen before an entry of a block list. -/
def beginEntry (s : Scan) : Option Scan := do
  guard (s.inFlow ∨ s.keyAllowed)
  let s ← (s.openBlock s.mark.column s.tokens.length .blockSequence).dropKey
  return { (s.emit .entry).advance 1 with keyAllowed := true }

/-- Passes the question mark before a key. -/
def beginKey (s : Scan) : Option Scan := do
  guard (s.inFlow ∨ s.keyAllowed)
  let s ← (s.openBlock s.mark.column s.tokens.length .blockMapping).dropKey
  return { (s.emit .key).advance 1 with keyAllowed := ! s.inFlow }

/-- Passes the colon before a value: what stands before it was a key if a key may have begun there.
-/
def beginValue (s : Scan) : Option Scan :=
  match s.keys with
  | some key :: outer =>
    if s.isNear key then
      let s := { s with keys := none :: outer }
      let s := s.emitAt key.position .key
      let s := s.openBlock key.mark.column key.position .blockMapping
      some { (s.emit .value).advance 1 with keyAllowed := false }
    else if key.required then none
    else beginBareValue { s with keys := none :: outer }
  | _ => beginBareValue s
where
  /-- Passes a colon before which there is no key on the line. -/
  beginBareValue (s : Scan) : Option Scan := do
    guard (s.inFlow ∨ s.keyAllowed)
    let s := s.openBlock s.mark.column s.tokens.length .blockMapping
    return { (s.emit .value).advance 1 with keyAllowed := ! s.inFlow }

/-- Passes a directive. -/
def passDirective (s : Scan) : Option Scan := do
  let s ← (s.closeTo 0).dropKey
  let (directive, rest) ← readDirective (s.rest.drop 1)
  let passed := s.rest.length - rest.length
  let (rest, mark) ← toNextLine false (s.mark.skip passed) rest
  return { s.emit (.directive directive) with rest, mark, keyAllowed := false }

/-- Passes an anchor. -/
def passAnchor (s : Scan) : Option Scan := do
  let s ← s.noteKey
  let (name, rest) ← readAnchor (s.rest.drop 1)
  let number := s.anchors.length
  let anchors := (name, number) :: s.anchors.filter (·.1 ≠ name)
  return { s.emit (.anchor number) with
    rest, anchors, mark := s.mark.skip (name.length + 1), keyAllowed := false }

/-- Passes an alias, which an anchor of its name has to precede. -/
def passAlias (s : Scan) : Option Scan := do
  let s ← s.noteKey
  let (name, rest) ← readAnchor (s.rest.drop 1)
  let number ← s.anchors.lookup name
  return { s.emit (.alias number) with
    rest, mark := s.mark.skip (name.length + 1), keyAllowed := false }

/-- Passes a tag. -/
def passTag (s : Scan) : Option Scan := do
  let s ← s.noteKey
  let (tag, rest) ← readTag (s.rest.drop 1)
  guard (atSpace rest ∨ s.inFlow ∧ rest.head? = some ',')
  let passed := s.rest.length - rest.length
  return { s.emit (.tag tag) with rest, mark := s.mark.skip passed, keyAllowed := false }

/-- The scan with a scalar that has been read. -/
def emitScalar (s : Scan) (style : ScalarStyle) (read : ReadScalar) : Scan :=
  { s.emit (.scalar style read.value) with
    rest := read.rest, mark := read.mark, keyAllowed := read.folded }

/-- Reads a quoted scalar. -/
def quotedScalar (s : Scan) (single : Bool) : Option Scan := do
  let s ← s.noteKey
  return s.emitScalar .quoted
    (← readQuoted single [] .none none (s.mark.skip 1) (s.rest.drop 1))

/-- Reads a plain scalar. -/
def plainScalar (s : Scan) : Option Scan := do
  let s ← s.noteKey
  return s.emitScalar .plain (← readPlain s.floor s.inFlow [] .none s.mark s.rest)

/-- Reads a block scalar. -/
def blockScalar (s : Scan) (style : ScalarStyle) : Option Scan := do
  let s ← s.dropKey
  return s.emitScalar style
    (← readBlock (style = .folded) s.floor (s.mark.skip 1) (s.rest.drop 1))

/-- Whether a plain scalar may begin with a character, with the text behind it. -/
def beginsPlain (s : Scan) (c : Char) (rest : List Char) : Bool :=
  ! (isBlank c || "-?:,[]\x7b\x7d#&*!|>'\"%@\x60".toList.contains c) ||
    c = '-' && ! (match rest with
      | next :: _ => isBlank next
      | [] => false) ||
    (c = '?' || c = ':') && ! s.inFlow && ! atSpace rest

/-- Reads the token that begins with a character, with the text behind it. -/
def token (s : Scan) (c : Char) (rest : List Char) : Option Scan :=
  if s.mark.column = 0 ∧ c = '%' then s.passDirective
  else if s.mark.column = 0 ∧ atDocumentMark '-' s.rest then s.markDocument .documentStart
  else if s.mark.column = 0 ∧ atDocumentMark '.' s.rest then s.markDocument .documentEnd
  else if c = '[' then s.openFlow .flowSequence
  else if c = '\x7b' then s.openFlow .flowMapping
  else if c = ']' then s.closeFlow .flowSequenceEnd
  else if c = '\x7d' then s.closeFlow .flowMappingEnd
  else if c = ',' then s.separate
  else if c = '-' ∧ atSpace rest then s.beginEntry
  else if c = '?' ∧ (s.inFlow ∨ atSpace rest) then s.beginKey
  else if c = ':' ∧ (s.inFlow ∨ atSpace rest) then s.beginValue
  else if c = '*' then s.passAlias
  else if c = '&' then s.passAnchor
  else if c = '!' then s.passTag
  else if c = '|' ∧ ¬ s.inFlow then s.blockScalar .literal
  else if c = '>' ∧ ¬ s.inFlow then s.blockScalar .folded
  else if c = '\x27' then s.quotedScalar true
  else if c = '\x22' then s.quotedScalar false
  else if s.beginsPlain c rest then s.plainScalar
  else none

/-- Closes what is open at the end of the text. -/
def finish (s : Scan) : Option (List Token) := do
  let s ← (s.closeTo 0).dropKey
  return s.tokens.reverse

/-- Reads all tokens; `fuel` bounds their number. -/
def run : Nat → Scan → Option (List Token)
  | 0, _ => none
  | fuel + 1, s =>
    let s := s.toToken
    let s := s.closeTo (s.mark.column + 1)
    match s.rest with
    | [] => s.finish
    | c :: rest => (s.token c rest).bind (run fuel)

end Scan

/-- The tokens of a text, if it has only characters that a YAML text may have. -/
def tokens? (text : String) : Option (List Token) :=
  let characters := joinReturns text.toList
  if characters.all isAllowed then Scan.run (characters.length + 1) (.start characters) else none

end ReleaseMatrix.Yaml
