import ReleaseMatrix.Json.Pretty
import ReleaseMatrix.Matrix.Basic

/-!
# Reports

What a matrix says, for people as text and for tools as JSON. The text has a line for the current
version, one for each unreleased version, and one for each of five lists of versions.
-/

namespace ReleaseMatrix

/-- What a matrix says. -/
structure Report where
  /-- The current version. -/
  current : Version
  /-- The unreleased versions with their branches and projects. -/
  unreleased : List Unreleased
  /-- The released versions. -/
  released : List Version
  /-- The versions whose indices the current version reads. -/
  indexCompatible : List Version
  /-- The versions that the current version talks to over the wire. -/
  wireCompatible : List Version
  /-- The unreleased ones among the versions whose indices are read. -/
  unreleasedIndexCompatible : List Version
  /-- The unreleased ones among the versions talked to over the wire. -/
  unreleasedWireCompatible : List Version
deriving DecidableEq

/-- What a matrix says. -/
def Matrix.report (m : Matrix) : Report where
  current := m.current
  unreleased := m.unreleased
  released := m.released
  indexCompatible := m.indexCompatible
  wireCompatible := m.wireCompatible
  unreleasedIndexCompatible := m.unreleasedIndexCompatible
  unreleasedWireCompatible := m.unreleasedWireCompatible

/-- The version, its branch and its project, with spaces between them. -/
def Unreleased.line (u : Unreleased) : String :=
  u.version.text ++ " " ++ u.branch ++ " " ++ u.project.path

/-- The unreleased version as JSON. -/
def Unreleased.json (u : Unreleased) : Json :=
  .object [("version", .string u.version.text), ("branch", .string u.branch),
    ("project", .string u.project.path)]

namespace Report

/-- The lists of versions in the report, with the names that the text gives them. -/
def lists (r : Report) : List (String × List Version) := [
  ("released", r.released),
  ("index compatible", r.indexCompatible),
  ("wire compatible", r.wireCompatible),
  ("unreleased index compatible", r.unreleasedIndexCompatible),
  ("unreleased wire compatible", r.unreleasedWireCompatible)]

/-- The report as text. -/
def text (r : Report) : String :=
  "current: " ++ r.current.text ++ "\nunreleased:\n" ++
    String.join (r.unreleased.map fun u => "  " ++ u.line ++ "\n") ++
    String.join (r.lists.map fun (name, versions) => name ++ ": " ++ joinVersions versions ++ "\n")

/-- The report as a JSON value. -/
def json (r : Report) : Json :=
  let versions (vs : List Version) : Json := .array (vs.map fun v => .string v.text)
  .object [
    ("current", .string r.current.text),
    ("unreleased", .array (r.unreleased.map Unreleased.json)),
    ("released", versions r.released),
    ("index_compatible", versions r.indexCompatible),
    ("wire_compatible", versions r.wireCompatible),
    ("unreleased_index_compatible", versions r.unreleasedIndexCompatible),
    ("unreleased_wire_compatible", versions r.unreleasedWireCompatible)]

end Report

end ReleaseMatrix
