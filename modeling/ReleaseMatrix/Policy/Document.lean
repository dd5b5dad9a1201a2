import ReleaseMatrix.Document
import ReleaseMatrix.Policy.Basic
import ReleaseMatrix.Version.Text

/-!
# Policies in documents

A policy is written as a record. Reading takes every field that the record does not have from the
standard policy; in a transition only the major has to be given. Majors and counts of majors fit in
32 bits, the numbers of supported majors in 64. Writing gives every field.
-/

namespace ReleaseMatrix

namespace Document

/-- The document taken as a number of 32 bits. -/
def word? : Document → Option Nat := natural? 0x100000000

/-- The document taken as a number of 64 bits. -/
def longWord? : Document → Option Nat := natural? 0x10000000000000000

/-- The document taken as a version. -/
def version? (d : Document) : Option Version := do
  (Version.ofText (← d.text?)).toOption

end Document

/-- The window that a document describes. -/
def LegacyWindow.ofDocument (d : Document) : Option LegacyWindow := do
  let fields ← d.fields? ["until_major", "supported_majors"]
  return {
    untilMajor := ← requiredField fields "until_major" Document.word?
    supportedMajors := ← requiredField fields "supported_majors" Document.longWord? }

/-- The transition that a document describes. -/
def Transition.ofDocument (d : Document) : Option Transition := do
  let fields ← d.fields?
    ["major", "wire_previous_major", "extra_index_majors", "extra_wire_majors"]
  return {
    major := ← requiredField fields "major" Document.word?
    wirePreviousMajor :=
      ← fieldOr fields "wire_previous_major" (Document.optional? Document.word?) none
    extraIndexMajors := ← fieldOr fields "extra_index_majors" (Document.listOf? Document.word?) []
    extraWireMajors := ← fieldOr fields "extra_wire_majors" (Document.listOf? Document.word?) [] }

namespace Policy

/-- The aliases that a document lists. -/
def aliasesOfDocument (d : Document) : Option (Table Nat) := do
  let rows ← (← d.entries?).mapM fun (key, value) => do return (← key.word?, ← value.word?)
  return .ofList rows

/-- The legacy majors that a document lists. -/
def legacyMajorsOfDocument (d : Document) : Option (SortedSet Nat) := do
  return .ofList (← d.listOf? Document.word?)

/-- The names of the fields of a policy. -/
def fieldNames : List String := ["trunk_branch", "bootstrap_version", "major_aliases",
  "retained_majors", "supported_majors", "legacy_window", "legacy_majors", "transitions"]

/-- The policy with the given fields; the others are those of the standard policy. -/
def ofFields (fields : List (String × Document)) : Option Policy := do
  return {
    trunkBranch := ← fieldOr fields "trunk_branch" Document.text? standard.trunkBranch
    bootstrapVersion :=
      ← fieldOr fields "bootstrap_version" Document.version? standard.bootstrapVersion
    majorAliases := ← fieldOr fields "major_aliases" aliasesOfDocument standard.majorAliases
    retainedMajors := ← fieldOr fields "retained_majors" Document.word? standard.retainedMajors
    supportedMajors :=
      ← fieldOr fields "supported_majors" Document.longWord? standard.supportedMajors
    legacyWindow :=
      ← fieldOr fields "legacy_window" (Document.optional? LegacyWindow.ofDocument)
        standard.legacyWindow
    legacyMajors := ← fieldOr fields "legacy_majors" legacyMajorsOfDocument standard.legacyMajors
    transitions :=
      ← fieldOr fields "transitions" (Document.listOf? Transition.ofDocument)
        standard.transitions }

/-- The policy that a document describes. -/
def ofDocument (d : Document) : Option Policy := do
  ofFields (← d.fields? fieldNames)

/-- The policy that a JSON object describes. -/
def ofJson (v : Json) : Option Policy :=
  match v with
  | .object _ => ofDocument v.document
  | _ => none

end Policy

/-! ### Writing -/

/-- A list of numbers as JSON. -/
def Json.naturals (ns : List Nat) : Json := .array (ns.map .natural)

/-- A number that may be missing as JSON. -/
def Json.natural? : Option Nat → Json
  | some n => .natural n
  | none => .null

/-- The window as JSON. -/
def LegacyWindow.json (w : LegacyWindow) : Json :=
  .object [("until_major", .natural w.untilMajor), ("supported_majors", .natural w.supportedMajors)]

/-- The transition as JSON. -/
def Transition.json (t : Transition) : Json :=
  .object [
    ("major", .natural t.major),
    ("wire_previous_major", .natural? t.wirePreviousMajor),
    ("extra_index_majors", .naturals t.extraIndexMajors),
    ("extra_wire_majors", .naturals t.extraWireMajors)]

/-- The fields of the policy as JSON. -/
def Policy.jsonFields (p : Policy) : List (String × Json) := [
  ("trunk_branch", .string p.trunkBranch),
  ("bootstrap_version", .string p.bootstrapVersion.text),
  ("major_aliases", .object (p.majorAliases.rows.map fun row => (row.1.repr, .natural row.2))),
  ("retained_majors", .natural p.retainedMajors),
  ("supported_majors", .natural p.supportedMajors),
  ("legacy_window", match p.legacyWindow with
    | some window => window.json
    | none => .null),
  ("legacy_majors", .naturals p.legacyMajors.toList),
  ("transitions", .array (p.transitions.map Transition.json))]

/-- The policy as JSON. -/
def Policy.json (p : Policy) : Json := .object p.jsonFields

end ReleaseMatrix
