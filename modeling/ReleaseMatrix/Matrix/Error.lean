import ReleaseMatrix.Version.Text

/-!
# Errors of the matrix

The reasons why the declared versions make no matrix, and why a branch cannot be named, with their
wording.
-/

namespace ReleaseMatrix

/-- Why the declared versions make no matrix, or a branch has no name. -/
inductive MatrixError where
  /-- No version is declared. -/
  | noVersions
  /-- The newest declared version is not the one the build is configured for. -/
  | currentMismatch (newest expected : Version)
  /-- The number of retained major lines is not the expected one. -/
  | majorCount (expected : Nat) (found : List Nat)
  /-- A major line that is needed has no retained version. -/
  | missingLine (major : Nat)
  /-- No build project has the path. -/
  | unknownProject (path : String)
deriving DecidableEq

/-- The wording of the error. -/
def MatrixError.message : MatrixError → String
  | .noVersions => "could not parse any versions"
  | .currentMismatch newest expected =>
    "parsed versions latest version does not match the one configured in build properties: " ++
      "parsed latest version is " ++ newest.text ++ " but the build has " ++ expected.text
  | .majorCount expected found =>
    "expected exactly " ++ expected.repr ++ " majors in parsed versions but found: [" ++
      ", ".intercalate (found.map Nat.repr) ++ "]"
  | .missingLine major => "no versions declared for major " ++ major.repr
  | .unknownProject path => "unexpected build project path: '" ++ path ++ "'"

end ReleaseMatrix
