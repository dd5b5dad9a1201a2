import ReleaseMatrix.Document
import ReleaseMatrix.Json.Reader
import ReleaseMatrix.Yaml.Mark

/-!
# YAML scalars

A scalar is written plain or in single or double quotes, on one line or on several. A single line
break in it stands for a space, and of several the first stands for nothing; the blanks around them
do not count. A plain scalar ends before a comment, before a colon that a blank follows, where the
indentation does not go on, and inside flow collections before their punctuation. In single quotes a
quote is written twice; in double quotes a backslash begins an escape.

A plain scalar may be taken for a number or a missing value, any other one is a text only. A tag
takes the second meaning from a plain scalar unless it is the tag of missing values, which the
scalar must then be; and the tag of integers gives the first to a literal scalar.
-/

namespace ReleaseMatrix.Yaml

/-- The blanks and line breaks between two characters of a scalar. -/
inductive Gap where
  /-- No blank at all. -/
  | none
  /-- Blanks on one line, the last first. -/
  | blanks (written : List Char)
  /-- Line breaks: the value of the first, and of the others. -/
  | breaks (first more : List Char)

namespace Gap

/-- What the gap stands for in the value, the last character first. -/
def reversedValue : Gap → List Char
  | .none => []
  | .blanks written => written
  | .breaks first more =>
    if first = ['\n'] then if more = [] then [' '] else more.reverse
    else (first ++ more).reverse

/-- The gap with one more blank. -/
def blank (gap : Gap) (c : Char) : Gap :=
  match gap with
  | .none => .blanks [c]
  | .blanks written => .blanks (c :: written)
  | .breaks first more => .breaks first more

/-- The gap with one more line break. -/
def lineBreak (gap : Gap) (c : Char) : Gap :=
  match gap with
  | .breaks first more => .breaks first (more ++ breakValue c)
  | _ => .breaks (breakValue c) []

/-- Whether the gap has a line break. -/
def isFolded : Gap → Bool
  | .breaks _ _ => true
  | _ => false

/-- Whether the gap is empty. -/
def isNone : Gap → Bool
  | .none => true
  | _ => false

end Gap

/-- A scalar that has been read. -/
structure ReadScalar where
  /-- The value. -/
  value : List Char
  /-- Whether line breaks were read behind its last character. -/
  folded : Bool
  /-- The place where reading goes on. -/
  mark : Mark
  /-- The text there. -/
  rest : List Char

/-- Reads a plain scalar whose lines are indented by at least `floor` columns. `value` holds what
has been read, the last character first, and `gap` the blanks behind it. -/
def readPlain (floor : Nat) (flow : Bool) (value : List Char) (gap : Gap) (m : Mark) :
    List Char → Option ReadScalar
  | [] => some { value := value.reverse, folded := gap.isFolded, mark := m, rest := [] }
  | c :: rest =>
    if isBlank c then
      if gap.isFolded ∧ m.column < floor ∧ c = '\t' then none
      else readPlain floor flow value (gap.blank c) (m.pass c) rest
    else if isBreak c then readPlain floor flow value (gap.lineBreak c) m.newLine rest
    else
      let ended := ! gap.isNone && (! flow && m.column < floor || c = '#' ||
        m.column = 0 && (atDocumentMark '-' (c :: rest) || atDocumentMark '.' (c :: rest)))
      let confused := flow && c = ':' && match rest with
        | next :: _ => ",?[]\x7b\x7d".toList.contains next
        | [] => false
      let closed := c = ':' && atSpace rest || flow && ",[]\x7b\x7d".toList.contains c
      if ended then
        some { value := value.reverse, folded := gap.isFolded, mark := m, rest := c :: rest }
      else if confused then none
      else if closed then
        some { value := value.reverse, folded := gap.isFolded, mark := m, rest := c :: rest }
      else readPlain floor flow (c :: (gap.reversedValue ++ value)) .none (m.pass c) rest

/-- The character that a backslash and a character write in double quotes. -/
def escape? : Char → Option Char
  | '0' => some '\x00'
  | 'a' => some '\x07'
  | 'b' => some '\x08'
  | 't' => some '\t'
  | '\t' => some '\t'
  | 'n' => some '\n'
  | 'v' => some '\x0b'
  | 'f' => some '\x0c'
  | 'r' => some '\r'
  | 'e' => some '\x1b'
  | ' ' => some ' '
  | '\x22' => some '\x22'
  | '/' => some '/'
  | '\\' => some '\\'
  | 'N' => some '\u0085'
  | '_' => some '\u00a0'
  | 'L' => some '\u2028'
  | 'P' => some '\u2029'
  | _ => none

/-- How many hexadecimal digits follow a backslash and a character that write a code point. -/
def codeLength? : Char → Option Nat
  | 'x' => some 2
  | 'u' => some 4
  | 'U' => some 8
  | _ => none

/-- Reads a quoted scalar behind its opening quote. While the digits of a code point are read,
`code` holds how many of them are still to come, less one, and the number so far. -/
def readQuoted (single : Bool) (value : List Char) (gap : Gap) (code : Option (Nat × Nat))
    (m : Mark) : List Char → Option ReadScalar
  | [] => none
  | c :: rest =>
    match code with
    | some (more, number) => do
      let number := number * 16 + (← Json.hexDigit? c)
      match more with
      | 0 =>
        if number.isValidChar then
          readQuoted single (Char.ofNat number :: value) .none none (m.pass c) rest
        else none
      | more + 1 => readQuoted single value gap (some (more, number)) (m.pass c) rest
    | none =>
      if isBlank c then readQuoted single value (gap.blank c) none (m.pass c) rest
      else if isBreak c then readQuoted single value (gap.lineBreak c) none m.newLine rest
      else if m.column = 0 ∧ (atDocumentMark '-' (c :: rest) ∨ atDocumentMark '.' (c :: rest))
      then none
      else
        let value := gap.reversedValue ++ value
        if single ∧ c = '\x27' then
          match rest with
          | '\x27' :: rest => readQuoted single ('\x27' :: value) .none none (m.skip 2) rest
          | _ => some { value := value.reverse, folded := false, mark := m.skip 1, rest }
        else if ¬ single ∧ c = '\x22' then
          some { value := value.reverse, folded := false, mark := m.skip 1, rest }
        else if ¬ single ∧ c = '\\' then
          match rest with
          | e :: rest =>
            if isBreak e then readQuoted single value (.breaks [] []) none m.newLine rest
            else match codeLength? e, escape? e with
              | some length, _ =>
                readQuoted single value .none (some (length - 1, 0)) (m.skip 2) rest
              | none, some character =>
                readQuoted single (character :: value) .none none (m.skip 2) rest
              | none, none => none
          | [] => none
        else readQuoted single (c :: value) .none none (m.pass c) rest

/-! ### What a scalar may be taken for -/

/-- The value of a digit in a base of at most sixteen. -/
def digit? (base : Nat) (c : Char) : Option Nat := (Json.hexDigit? c).filter (· < base)

/-- The number that a non-empty run of digits writes in a base. -/
def numberIn? (base : Nat) (s : List Char) : Option Nat := do
  guard (s ≠ [])
  s.foldlM (fun n c => do return n * base + (← digit? base c)) 0

/-- The natural number that a plain scalar writes: in decimal without leading zeros, or behind `0x`,
`0o` or `0b` in another base. A plus sign may precede it. -/
def numeral? (s : List Char) : Option Nat :=
  let unsigned := match s with
    | '+' :: rest => rest
    | _ => s
  match unsigned with
  | '0' :: 'x' :: digits => numberIn? 16 digits
  | '0' :: 'o' :: digits => numberIn? 8 digits
  | '0' :: 'b' :: digits => numberIn? 2 digits
  | ['0'] => some 0
  | '0' :: _ => none
  | digits => Text.natural? digits

/-- How a scalar is written. -/
inductive ScalarStyle where
  /-- As it is. -/
  | plain
  /-- In quotes. -/
  | quoted
  /-- In indented lines that are kept. -/
  | literal
  /-- In indented lines that are joined. -/
  | folded
deriving DecidableEq

/-- The tag of missing values. -/
def missingTag : List Char := "tag:yaml.org,2002:null".toList

/-- The tag of integers. -/
def integerTag : List Char := "tag:yaml.org,2002:int".toList

/-- Whether a text is a mark of a missing value. -/
def marksMissing (value : List Char) : Bool :=
  String.ofList value ∈ ["~", "null", "Null", "NULL"]

/-- Whether a plain scalar gives a value; without a tag, nothing is a missing value. -/
def plainPresence (tag : Option (List Char)) (value : List Char) : Presence :=
  match tag with
  | none => if value = [] || marksMissing value then .missing else .present
  | some tag =>
    if tag ≠ missingTag then .present
    else if marksMissing value then .missing else .contradictory

/-- What a scalar of a style, that may have a tag, may be taken for. -/
def scalarOf (tag : Option (List Char)) (style : ScalarStyle) (value : List Char) : Scalar where
  text? := some (String.ofList value)
  natural? :=
    if style = .plain ∨ style = .literal ∧ tag = some integerTag then numeral? value else none
  presence := if style = .plain then plainPresence tag value else .present
  isEmpty := style = .plain && value = []

end ReleaseMatrix.Yaml
