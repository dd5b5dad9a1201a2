import ReleaseMatrix.Json.Value
import ReleaseMatrix.Text.Numeral

/-!
# Documents

The common form of the data that settings are read from, whichever notation they are written in. A
notation decides how a scalar may be taken: as text, as a natural number, as the mark of a missing
value, or as an empty list or record. Records are read by the names of their fields: unknown fields
are passed over, and a known one may be given only once.
-/

namespace ReleaseMatrix

/-- Whether a scalar gives a value where one may be missing. -/
inductive Presence where
  /-- It gives a value. -/
  | present
  /-- It marks a missing value. -/
  | missing
  /-- It is declared to mark a missing value, but its text does not. -/
  | contradictory
deriving DecidableEq

/-- A scalar with all that its notation lets it stand for. -/
structure Scalar where
  /-- The scalar taken as text. -/
  text? : Option String
  /-- The scalar taken as a natural number. -/
  natural? : Option Nat
  /-- Whether the scalar gives a value where one may be missing. -/
  presence : Presence
  /-- Whether the scalar may stand for an empty list or record. -/
  isEmpty : Bool
deriving DecidableEq

/-- The data of a document. -/
inductive Document where
  /-- A single value. -/
  | scalar (value : Scalar)
  /-- A list; if `positional`, it may stand for a record whose fields it gives in their order. -/
  | list (positional : Bool) (items : List Document)
  /-- Values by their keys. -/
  | record (entries : List (Document × Document))

namespace Document

/-- The document taken as text. -/
def text? : Document → Option String
  | .scalar s => s.text?
  | _ => none

/-- The document taken as a natural number below a bound. -/
def natural? (bound : Nat) : Document → Option Nat
  | .scalar s => s.natural?.filter (· < bound)
  | _ => none

/-- The document taken as a list. -/
def items? : Document → Option (List Document)
  | .scalar s => if s.isEmpty then some [] else none
  | .list _ items => some items
  | .record _ => none

/-- The document taken as a table of values by keys. -/
def entries? : Document → Option (List (Document × Document))
  | .scalar s => if s.isEmpty then some [] else none
  | .list _ _ => none
  | .record entries => some entries

/-- The document taken as a list of values of one kind. -/
def listOf? {α : Type} (read : Document → Option α) (d : Document) : Option (List α) := do
  (← d.items?).mapM read

/-- The document taken as a value that may be missing. -/
def optional? {α : Type} (read : Document → Option α) (d : Document) : Option (Option α) :=
  match d with
  | .scalar s =>
    match s.presence with
    | .present => (read d).map some
    | .missing => some none
    | .contradictory => none
  | _ => (read d).map some

/-- The fields of a record that have one of the names; none of them may be given twice, and every
key has to be a text. -/
def namedFields (names : List String) : List (Document × Document) →
    Option (List (String × Document))
  | [] => some []
  | (key, value) :: entries => do
    let name ← key.text?
    let fields ← namedFields names entries
    if name ∈ names then
      guard (fields.lookup name).isNone
      return (name, value) :: fields
    else return fields

/-- The document taken as a record with fields of the given names, of which some may be absent. -/
def fields? (names : List String) (d : Document) : Option (List (String × Document)) :=
  match d with
  | .list true items => if items.length ≤ names.length then some (names.zip items) else none
  | _ => do namedFields names (← d.entries?)

end Document

/-- The value of a field, or a default if the record does not have the field. -/
def fieldOr {α : Type} (fields : List (String × Document)) (name : String)
    (read : Document → Option α) (default : α) : Option α :=
  match fields.lookup name with
  | some d => read d
  | none => some default

/-- The value of a field that the record has to have. -/
def requiredField {α : Type} (fields : List (String × Document)) (name : String)
    (read : Document → Option α) : Option α :=
  (fields.lookup name).bind read

/-! ### JSON documents -/

/-- The number that the name of a field writes, if it is a natural number as JSON writes it. -/
def jsonNumeral? (name : String) : Option Nat :=
  match name.toList with
  | ['0'] => some 0
  | '0' :: _ => none
  | digits => Text.natural? digits

/-- A text may be a text only. -/
def Scalar.ofText (s : String) : Scalar :=
  { text? := some s, natural? := none, presence := .present, isEmpty := false }

/-- The name of a field may be a text, or the number that it writes. -/
def Scalar.ofJsonName (name : String) : Scalar :=
  { Scalar.ofText name with natural? := jsonNumeral? name }

mutual

/-- The document that a JSON value gives: a text is a text only, a natural number a number only, and
`null` marks a missing value. -/
def Json.document : Json → Document
  | .null => .scalar { text? := none, natural? := none, presence := .missing, isEmpty := false }
  | .bool _ => .scalar { text? := none, natural? := none, presence := .present, isEmpty := false }
  | .natural n =>
    .scalar { text? := none, natural? := some n, presence := .present, isEmpty := false }
  | .number _ => .scalar { text? := none, natural? := none, presence := .present, isEmpty := false }
  | .string s => .scalar (.ofText s)
  | .array items => .list true (itemDocuments items)
  | .object fields => .record (fieldDocuments fields)

/-- The documents of the items of a JSON list. -/
def Json.itemDocuments : List Json → List Document
  | [] => []
  | item :: items => item.document :: itemDocuments items

/-- The documents of the fields of a JSON object, with their names. -/
def Json.fieldDocuments : List (String × Json) → List (Document × Document)
  | [] => []
  | (name, value) :: fields =>
    (.scalar (.ofJsonName name), value.document) :: fieldDocuments fields

end

end ReleaseMatrix
