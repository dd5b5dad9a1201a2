import ReleaseMatrix.Json.Value
import ReleaseMatrix.Text.Cut
import ReleaseMatrix.Text.Numeral

/-!
# Reading JSON text

A text is read as one value with white space around it. Of two fields of an object with the same
name the later counts. A text may write a character by the code of its unit, or of its two units, in
UTF-16.
-/

namespace ReleaseMatrix.Json

open Text

/-- The text without the white space in front of it. -/
def skipBlanks (s : List Char) : List Char :=
  s.dropWhile fun c => c = ' ' || c = '\n' || c = '\t' || c = '\r'

/-! ### Texts -/

/-- The value of a hexadecimal digit. -/
def hexDigit? (c : Char) : Option Nat :=
  if c.isDigit then some (c.toNat - '0'.toNat)
  else if 'a' ≤ c ∧ c ≤ 'f' then some (c.toNat - 'a'.toNat + 10)
  else if 'A' ≤ c ∧ c ≤ 'F' then some (c.toNat - 'A'.toNat + 10)
  else none

/-- The number of four hexadecimal digits. -/
def hexNumber? (a b c d : Char) : Option Nat := do
  return (((← hexDigit? a) * 16 + (← hexDigit? b)) * 16 + (← hexDigit? c)) * 16 + (← hexDigit? d)

/-- The character that a backslash and a letter write. -/
def shortEscape? : Char → Option Char
  | '\x22' => some '\x22'
  | '\\' => some '\\'
  | '/' => some '/'
  | 'b' => some '\x08'
  | 'f' => some '\x0c'
  | 'n' => some '\n'
  | 'r' => some '\r'
  | 't' => some '\t'
  | _ => none

/-- The units that a text writes up to its closing quote, and what is behind the quote. -/
def readUnits : List Char → Option (List Nat × List Char)
  | [] => none
  | '\x22' :: rest => some ([], rest)
  | '\\' :: 'u' :: a :: b :: c :: d :: rest => do
    let unit ← hexNumber? a b c d
    let (units, rest) ← readUnits rest
    return (unit :: units, rest)
  | '\\' :: e :: rest => do
    let c ← shortEscape? e
    let (units, rest) ← readUnits rest
    return (c.toNat :: units, rest)
  | c :: rest =>
    if c.toNat < 0x20 then none
    else do
      let (units, rest) ← readUnits rest
      return (c.toNat :: units, rest)

/-- The characters of a list of units; a pair of surrogates is one character, and a surrogate that
stands alone is none. -/
def joinUnits : List Nat → Option (List Char)
  | [] => some []
  | high :: low :: units =>
    if 0xD800 ≤ high ∧ high < 0xDC00 then
      if 0xDC00 ≤ low ∧ low < 0xE000 then
        (joinUnits units).map
          (Char.ofNat (0x10000 + (high - 0xD800) * 0x400 + (low - 0xDC00)) :: ·)
      else none
    else if high.isValidChar then (joinUnits (low :: units)).map (Char.ofNat high :: ·)
    else none
  | [unit] => if unit.isValidChar then some [Char.ofNat unit] else none

/-- The text up to the closing quote, and what is behind the quote. -/
def readString (s : List Char) : Option (String × List Char) := do
  let (units, rest) ← readUnits s
  return (String.ofList (← joinUnits units), rest)

/-! ### Numbers -/

/-- The digits at the beginning of a text, at least one, and what is behind them. -/
def readDigits (s : List Char) : Option (List Char × List Char) :=
  match s.takeWhile Char.isDigit with
  | [] => none
  | digits => some (digits, s.dropWhile Char.isDigit)

/-- The digits of an integer, which has no leading zero unless it is zero, and what is behind. -/
def readInteger (s : List Char) : Option (List Char × List Char) :=
  match s with
  | '0' :: rest => some (['0'], rest)
  | _ => readDigits s

/-- The fraction at the beginning of a text, empty if there is none, and what is behind it. -/
def readFraction (s : List Char) : Option (List Char × List Char) :=
  match s with
  | '.' :: rest => (readDigits rest).map fun (digits, rest) => ('.' :: digits, rest)
  | _ => some ([], s)

/-- The exponent at the beginning of a text, empty if there is none, and what is behind it. -/
def readExponent (s : List Char) : Option (List Char × List Char) :=
  match s with
  | e :: sign :: rest =>
    if e = 'e' ∨ e = 'E' then
      if sign = '+' ∨ sign = '-' then
        (readDigits rest).map fun (digits, rest) => (e :: sign :: digits, rest)
      else (readDigits (sign :: rest)).map fun (digits, rest) => (e :: digits, rest)
    else some ([], s)
  | [e] => if e = 'e' ∨ e = 'E' then none else some ([], s)
  | [] => some ([], [])

/-- The number at the beginning of a text, and what is behind it. -/
def readNumber (s : List Char) : Option (Json × List Char) := do
  let (sign, unsigned) := match s with
    | '-' :: rest => (['-'], rest)
    | _ => ([], s)
  let (integer, rest) ← readInteger unsigned
  let (fraction, rest) ← readFraction rest
  let (exponent, rest) ← readExponent rest
  if sign = [] ∧ fraction = [] ∧ exponent = [] then
    return (.natural (Nat.ofDigitChars 10 integer 0), rest)
  else return (.number (String.ofList (sign ++ integer ++ fraction ++ exponent)), rest)

/-! ### Values -/

/-- The fields with distinct names: of two with one name, the later. -/
def laterFields : List (String × Json) → List (String × Json)
  | [] => []
  | field :: fields =>
    let later := laterFields fields
    if later.any fun f => f.1 = field.1 then later else field :: later

mutual

/-- The value at the beginning of a text, and what is behind it; `fuel` bounds the number of nested
readings. -/
def readValue : Nat → List Char → Option (Json × List Char)
  | 0, _ => none
  | fuel + 1, s =>
    match skipBlanks s with
    | [] => none
    | '\x22' :: rest => (readString rest).map fun (s, rest) => (.string s, rest)
    | '[' :: rest =>
      match skipBlanks rest with
      | ']' :: rest => some (.array [], rest)
      | _ => (readItems fuel rest).map fun (items, rest) => (.array items, rest)
    | '\x7b' :: rest =>
      match skipBlanks rest with
      | '\x7d' :: rest => some (.object [], rest)
      | _ => (readFields fuel rest).map fun (fields, rest) => (.object (laterFields fields), rest)
    | c :: rest =>
      if c = '-' ∨ c.isDigit then readNumber (c :: rest)
      else
        ((behind? "null".toList (c :: rest)).map fun rest => (.null, rest)).or <|
        ((behind? "true".toList (c :: rest)).map fun rest => (.bool true, rest)).or <|
        ((behind? "false".toList (c :: rest)).map fun rest => (.bool false, rest))

/-- The items of a list up to its closing bracket, and what is behind it. -/
def readItems : Nat → List Char → Option (List Json × List Char)
  | 0, _ => none
  | fuel + 1, s => do
    let (item, rest) ← readValue fuel s
    match skipBlanks rest with
    | ',' :: rest =>
      let (items, rest) ← readItems fuel rest
      return (item :: items, rest)
    | ']' :: rest => return ([item], rest)
    | _ => none

/-- The fields of an object up to its closing brace, and what is behind it. -/
def readFields : Nat → List Char → Option (List (String × Json) × List Char)
  | 0, _ => none
  | fuel + 1, s => do
    let rest ← behind? ['\x22'] (skipBlanks s)
    let (name, rest) ← readString rest
    let rest ← behind? [':'] (skipBlanks rest)
    let (value, rest) ← readValue fuel rest
    match skipBlanks rest with
    | ',' :: rest =>
      let (fields, rest) ← readFields fuel rest
      return ((name, value) :: fields, rest)
    | '\x7d' :: rest => return ([(name, value)], rest)
    | _ => none

end

/-- The value that a text writes. -/
def read? (text : String) : Option Json :=
  match readValue (text.length + 1) text.toList with
  | some (v, rest) => if skipBlanks rest = [] then some v else none
  | none => none

end ReleaseMatrix.Json
