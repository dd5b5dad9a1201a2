import ReleaseMatrix.Json.Reader
import ReleaseMatrix.Yaml.Mark

/-!
# Anchors, tags and directives of YAML

A node may have an anchor, by which aliases refer to it, and a tag, which says of what type it is. A
tag is written in full between angle brackets, or shortened behind a handle, for which a directive
before the document may set what it stands for. In a tag, bytes may be written by a percent sign and
two hexadecimal digits; together they have to make up characters of UTF-8. Of such a tag each byte
is taken for a character, and what follows a NUL is dropped.
-/

namespace ReleaseMatrix.Yaml

/-- A character of the name of an anchor, of a directive or of the handle of a tag. -/
def isNameChar (c : Char) : Bool := c.isAlphanum || c = '_' || c = '-'

/-- A character of a tag; in angle brackets there are more of them. -/
def isTagChar (bracketed : Bool) (c : Char) : Bool :=
  isNameChar c || ";/?:@&=+$.%!~*'()".toList.contains c || bracketed && ",[]".toList.contains c

/-! ### Anchors -/

/-- The name of an anchor or alias, and the text behind it. -/
def readAnchor (s : List Char) : Option (List Char × List Char) := do
  let rest := s.dropWhile isNameChar
  guard (s.takeWhile isNameChar ≠ [])
  guard (atSpace rest || rest.head?.any "?:,]\x7d%@\x60".toList.contains)
  return (s.takeWhile isNameChar, rest)

/-! ### Tags -/

/-- How many bytes follow the first byte of a character in UTF-8. -/
def bytesBehind? (byte : Nat) : Option Nat :=
  if byte < 0x80 then some 0
  else if byte < 0xC0 then none
  else if byte < 0xE0 then some 1
  else if byte < 0xF0 then some 2
  else if byte < 0xF8 then some 3
  else none

/-- The characters of a tag at the beginning of a text, and the text behind them. So many bytes as
`pending` says have to follow for the character that has begun. -/
def readTagChars (bracketed : Bool) (pending : Nat) (s : List Char) :
    Option (List Char × List Char) :=
  match s with
  | '%' :: a :: b :: rest => do
    let byte := (← Json.hexDigit? a) * 16 + (← Json.hexDigit? b)
    let pending ← match pending with
      | 0 => bytesBehind? byte
      | pending + 1 => if 0x80 ≤ byte ∧ byte < 0xC0 then some pending else none
    let (characters, rest) ← readTagChars bracketed pending rest
    return (Char.ofNat byte :: characters, rest)
  | c :: rest =>
    if pending ≠ 0 ∨ c = '%' then none
    else if isTagChar bracketed c then do
      let (characters, rest) ← readTagChars bracketed 0 rest
      return (c :: characters, rest)
    else some ([], c :: rest)
  | [] => if pending = 0 then some ([], []) else none

/-- A tag as it is written: the handle and what is behind it. The handle is empty if the tag is
written in full. -/
structure WrittenTag where
  /-- The handle. -/
  handle : List Char
  /-- What is behind the handle. -/
  suffix : List Char
deriving DecidableEq

/-- The characters before the first NUL. -/
def beforeNul (s : List Char) : List Char := s.takeWhile (· ≠ '\x00')

/-- The tag behind an exclamation mark, and the text behind it. -/
def readTag (s : List Char) : Option (WrittenTag × List Char) :=
  match s with
  | '<' :: s => do
    let (suffix, rest) ← readTagChars true 0 s
    guard (suffix ≠ [])
    match rest with
    | '>' :: rest => return ({ handle := [], suffix := beforeNul suffix }, rest)
    | _ => none
  | _ =>
    let name := s.takeWhile isNameChar
    match s.dropWhile isNameChar with
    | '!' :: rest => do
      let (suffix, rest) ← readTagChars false 0 rest
      guard (suffix ≠ [])
      return ({ handle := '!' :: name ++ ['!'], suffix := beforeNul suffix }, rest)
    | rest => do
      let (more, rest) ← readTagChars false 0 rest
      let suffix := beforeNul (name ++ more)
      return (if suffix = [] then { handle := [], suffix := ['!'] }
        else { handle := ['!'], suffix }, rest)

/-- What the handles stand for where no directive says so. -/
def standardHandles : List (List Char × List Char) :=
  [(['!'], ['!']), (['!', '!'], "tag:yaml.org,2002:".toList)]

/-- The whole tag, where directives have set some handles; none if its handle is not set. -/
def WrittenTag.whole? (tag : WrittenTag) (handles : List (List Char × List Char)) :
    Option (List Char) :=
  if tag.handle = [] then some tag.suffix
  else ((handles ++ standardHandles).lookup tag.handle).map (· ++ tag.suffix)

/-! ### Directives -/

/-- A directive before a document. -/
inductive Directive where
  /-- Tells the version of the notation. -/
  | version (major minor : Nat)
  /-- Sets what a handle stands for. -/
  | handle (name start : List Char)
deriving DecidableEq

/-- A number of at most nine digits, and the text behind it. -/
def readDigits (s : List Char) : Option (Nat × List Char) := do
  let digits := s.takeWhile Char.isDigit
  guard (digits.length ≤ 9)
  return (← Text.natural? digits, s.dropWhile Char.isDigit)

/-- The handle of a tag, and the text behind it. -/
def readHandle (s : List Char) : Option (List Char × List Char) :=
  match s with
  | '!' :: s =>
    match s.takeWhile isNameChar, s.dropWhile isNameChar with
    | name, '!' :: rest => some ('!' :: name ++ ['!'], rest)
    | [], rest => some (['!'], rest)
    | _, _ => none
  | _ => none

/-- The directive behind a percent sign, and the text behind it. -/
def readDirective (s : List Char) : Option (Directive × List Char) := do
  let rest := s.dropWhile isNameChar
  guard (atSpace rest)
  let rest := rest.dropWhile isBlank
  match String.ofList (s.takeWhile isNameChar) with
  | "YAML" =>
    let (major, rest) ← readDigits rest
    match rest with
    | '.' :: rest =>
      let (minor, rest) ← readDigits rest
      return (.version major minor, rest)
    | _ => none
  | "TAG" =>
    let (name, rest) ← readHandle rest
    guard (rest.head?.any isBlank)
    let (start, rest) ← readTagChars true 0 (rest.dropWhile isBlank)
    guard (start ≠ [] ∧ atSpace rest)
    return (.handle name (beforeNul start), rest)
  | _ => none

end ReleaseMatrix.Yaml
