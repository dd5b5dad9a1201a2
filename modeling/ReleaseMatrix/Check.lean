import ReleaseMatrix.Matrix.Basic
import ReleaseMatrix.Published

/-!
# The check of a matrix

A matrix takes the released versions to be published and the unreleased ones not to be. The check
compares that with an authoritative list and names every version about which the two disagree.
-/

namespace ReleaseMatrix

/-- The versions about which a matrix and a list of published versions disagree. -/
structure Disagreement where
  /-- The released versions of the matrix that are not published. -/
  notPublished : List Version
  /-- The unreleased versions of the matrix that are published. -/
  published : List Version
deriving DecidableEq

/-- The wording of a disagreement. -/
def Disagreement.message (d : Disagreement) : String :=
  "out-of-date released versions\n" ++
    "following versions are not really released, but the build thinks they are: [" ++
    joinVersions d.notPublished ++ "]\n" ++
    "build considers versions unreleased, but they are released according to an authoritative " ++
    "source: [" ++ joinVersions d.published ++ "]"

/-- Why a matrix does not pass its check. -/
inductive CheckError where
  /-- The published versions are not known. -/
  | unknown (reason : PublishedError)
  /-- The matrix disagrees with the published versions. -/
  | outOfDate (disagreement : Disagreement)
deriving DecidableEq

namespace CheckError

/-- The wording of the error. -/
def message : CheckError → String
  | .unknown reason => reason.message
  | .outOfDate disagreement => disagreement.message

/-- The wording of the reason behind the error, if there is one. -/
def cause? : CheckError → Option String
  | .unknown reason => some reason.cause
  | .outOfDate _ => none

end CheckError

namespace Matrix

/-- The versions about which the matrix and a list of published versions disagree. -/
def disagreement (m : Matrix) (published : List Version) : Disagreement where
  notPublished := m.released.filter (· ∉ published)
  published := m.unreleasedVersions.filter (· ∈ published)

/-- Compares the matrix with a list of published versions. -/
def compare (m : Matrix) (published : List Version) : Except Disagreement Unit :=
  let d := m.disagreement published
  if d.notPublished = [] ∧ d.published = [] then .ok () else .error d

/-- Compares the matrix with the published versions that a file lists. -/
def check (m : Matrix) (path : String) : Script CheckError Unit := do
  let published ← (Published.read path).mapError .unknown
  Script.ofExcept ((m.compare published).mapError .outOfDate)

end Matrix

end ReleaseMatrix
