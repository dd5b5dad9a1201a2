import ReleaseMatrix.Compatible
import ReleaseMatrix.Declaration
import ReleaseMatrix.Project
import ReleaseMatrix.Unreleased

/-!
# The compatibility matrix

The matrix of a build says which declared versions are unreleased, from which branch and by which
project each of them is built, and with which versions the current one has to be compatible. It is
computed once from the declared versions, the version the build is configured for and the policy.

It is not made if no version is declared, if the newest declared version is not the configured one,
if a line that is needed has no versions, or if the number of retained major lines is not the
expected one; that number is checked only behind a first minor and a first revision, since a new
line may be declared before the oldest one is dropped.
-/

namespace ReleaseMatrix

/-- Where an unreleased version is built from. -/
structure Unreleased where
  /-- The version. -/
  version : Version
  /-- The branch that carries it. -/
  branch : String
  /-- The project that checks out and builds the branch. -/
  project : Project
deriving DecidableEq

/-- The compatibility matrix of a build. -/
structure Matrix where
  /-- The current version. -/
  current : Version
  /-- The policy. -/
  policy : Policy
  /-- The declared versions on the retained lines. -/
  lines : RetainedLines
  /-- The unreleased versions in release order. -/
  unreleased : List Unreleased
  /-- The versions whose indices the current version reads. -/
  indexCompatible : List Version
  /-- The versions that the current version talks to over the wire. -/
  wireCompatible : List Version
deriving DecidableEq

namespace Matrix

/-- Refuses an unexpected number of retained major lines, behind a first minor and a first revision.
-/
def checkMajorCount (lines : RetainedLines) (current : Version) (p : Policy) :
    Except MatrixError Unit :=
  let expected := p.expectedMajorCount current.major
  if current.minor ≠ 0 ∧ current.revision ≠ 0 ∧ lines.majors.length ≠ expected then
    .error (.majorCount expected lines.majors)
  else .ok ()

/-- The released lines of the current version; nothing is released before the first release. -/
def releasedLines (lines : RetainedLines) (current : Version) (p : Policy) :
    Except MatrixError MinorLines :=
  if current = p.bootstrapVersion then .ok .empty else lines.released current p

/-- The unreleased versions with their branches and projects. -/
def placements (lines : RetainedLines) (current : Version) (p : Policy) :
    Except MatrixError (List Unreleased) := do
  let versions ← lines.unreleased current p
  let released ← releasedLines lines current p
  versions.mapM fun version => do
    let project := Project.ofVersion version current versions released
    let branch ← lines.branch p.trunkBranch version project
    return { version, branch, project }

/-- The matrix of the declared versions. -/
def build (declared : SortedSet Version) (expected : Version) (p : Policy) :
    Except MatrixError Matrix := do
  match p.newest? declared.toList with
  | none => throw .noVersions
  | some current =>
    if current ≠ expected then
      throw (.currentMismatch current expected)
    let lines := RetainedLines.of declared current p
    checkMajorCount lines current p
    let unreleased ← placements lines current p
    return {
      current, policy := p, lines, unreleased
      indexCompatible := lines.indexCompatible current p
      wireCompatible := lines.wireCompatible current p }

/-- The matrix of the versions that some lines declare. -/
def ofLines (lines : List String) (expected : Version) (p : Policy) : Except MatrixError Matrix :=
  build (Declaration.ofLines lines) expected p

/-- The matrix of the versions that a source text declares. -/
def ofSource (source : String) (expected : Version) (p : Policy) : Except MatrixError Matrix :=
  build (Declaration.ofSource source) expected p

variable (m : Matrix)

/-- The unreleased versions in release order. -/
def unreleasedVersions : List Version := m.unreleased.map (·.version)

/-- Where a version is built from, if it is unreleased. -/
def info? (v : Version) : Option Unreleased := m.unreleased.find? fun u => u.version = v

/-- The unreleased versions other than the current one, in release order. -/
def previousUnreleased : List Unreleased := m.unreleased.filter fun u => u.version ≠ m.current

/-- The branch on which the project with a path develops a version. -/
def branchAt (v : Version) (path : String) : Except MatrixError String :=
  m.lines.branchAt m.policy.trunkBranch v path

/-- Whether a version is declared on a retained line. -/
def retained (v : Version) : Bool := m.lines.contains v

/-- The retained versions that are released, without those of legacy lines, in release order. -/
def released : List Version :=
  m.policy.sortReleases (m.lines.versions.filter fun v =>
    v ∉ m.unreleasedVersions ∧ ¬ m.policy.isLegacy v.major)

/-- The unreleased versions whose indices the current version reads. -/
def unreleasedIndexCompatible : List Version :=
  retainUnreleased m.indexCompatible m.unreleasedVersions

/-- The unreleased versions that the current version talks to over the wire. -/
def unreleasedWireCompatible : List Version :=
  retainUnreleased m.wireCompatible m.unreleasedVersions

end Matrix

end ReleaseMatrix
