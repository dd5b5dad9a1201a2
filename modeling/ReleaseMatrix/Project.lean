import ReleaseMatrix.Lines.Minor

/-!
# Build projects and branches

An unreleased version is checked out from a branch and built by one of five projects:

- the current version, by the distribution, from the trunk;
- a new minor, by the minor project, from the branch `M.x` of its major, or from a branch of its own
  if it is not on the newest minor;
- an older new minor, which is staged for release, from its own branch;
- a revision on a released line, by the bugfix project, and one on an older line, by the maintenance
  project, both from the branches of their minors.
-/

namespace ReleaseMatrix

/-- A project that checks out and builds unreleased versions. -/
inductive Project where
  /-- Builds the current version. -/
  | distribution
  /-- Builds the next minor. -/
  | minor
  /-- Builds a minor that is staged for release. -/
  | staged
  /-- Builds the next revision of a released minor. -/
  | bugfix
  /-- Builds the next revision on an older major. -/
  | maintenance
deriving DecidableEq

namespace Project

/-- All projects. -/
def all : List Project := [distribution, minor, staged, bugfix, maintenance]

/-- The path by which build scripts refer to the project. -/
def path : Project → String
  | distribution => ":distribution"
  | minor => ":distribution:bwc:minor"
  | staged => ":distribution:bwc:staged"
  | bugfix => ":distribution:bwc:bugfix"
  | maintenance => ":distribution:bwc:maintenance"

/-- The project that has a path. -/
def ofPath (path : String) : Except MatrixError Project :=
  match all.find? fun project => project.path = path with
  | some project => .ok project
  | none => .error (.unknownProject path)

theorem mem_all (project : Project) : project ∈ all := by cases project <;> decide

@[simp] theorem ofPath_path (project : Project) : ofPath project.path = .ok project := by
  cases project <;> rfl

/-- The project that builds an unreleased version, with the unreleased versions in release order and
the released lines of the current version. -/
def ofVersion (v current : Version) (unreleased : List Version) (released : MinorLines) : Project :=
  if v = current then distribution
  else if v.revision = 0 then
    let newMinors := unreleased.filter fun w => w.revision = 0
    if 2 < newMinors.length ∧ newMinors[newMinors.length - 2]? ≠ some v then staged else minor
  else if released.contains v then bugfix
  else maintenance

end Project

/-- The branch of a minor. -/
def Version.minorBranch (v : Version) : String := v.major.repr ++ "." ++ v.minor.repr

/-- The branch that follows the newest minor of a major. -/
def Version.majorBranch (v : Version) : String := v.major.repr ++ ".x"

namespace RetainedLines

/-- The branch on which a project develops a version. -/
def branch (lines : RetainedLines) (trunk : String) (v : Version) (project : Project) :
    Except MatrixError String :=
  match project with
  | .distribution => .ok trunk
  | .minor => do
    let newest ← lines.newest v.major
    return if newest.minor = v.minor then v.majorBranch else v.minorBranch
  | .staged | .bugfix | .maintenance => .ok v.minorBranch

/-- The branch on which the project with a path develops a version. -/
def branchAt (lines : RetainedLines) (trunk : String) (v : Version) (path : String) :
    Except MatrixError String := do
  lines.branch trunk v (← Project.ofPath path)

end RetainedLines

end ReleaseMatrix
