import ReleaseMatrix.Lines.Minor
import ReleaseMatrix.Policy.ReleaseOrder

/-!
# Unreleased versions

A version number is added to a branch as soon as the one before it is released, so the versions
still in development are leaves of the version tree:

- the current version;
- the newest version of the previous major, and the newest of the minor below it while that newest
  version is a new minor itself;
- the newest version of the newest released minor, and while that minor has one version only the
  newest of the minor below it, and so on once more.

The first release of a project is its only unreleased version.
-/

namespace ReleaseMatrix

/-- The versions in development at the newest minors: while a minor has a single version, the minor
below it, at most two steps down, is in development too. -/
def MinorLines.developed (lines : MinorLines) : List Version :=
  match lines.greatestMinor? with
  | none => []
  | some greatest =>
    (lines.newest? greatest).toList ++
      if lines.IsSingle greatest then
        match greatest with
        | 0 => []
        | below + 1 =>
          (lines.newest? below).toList ++
            if lines.IsSingle below then
              match below with
              | 0 => []
              | staged + 1 => (lines.newest? staged).toList
            else []
      else []

namespace RetainedLines

/-- The versions in development on the previous major: its newest version, and while that is a new
minor the newest of the minor below. -/
def developedBefore (lines : RetainedLines) (previous : Nat) :
    Except MatrixError (List Version) := do
  let tip ← lines.newest previous
  match tip.revision, tip.minor with
  | 0, below + 1 => return tip :: (lines.newestInMinor? tip.major below).toList
  | _, _ => return [tip]

/-- The unreleased versions, each once and in release order. -/
def unreleased (lines : RetainedLines) (current : Version) (p : Policy) :
    Except MatrixError (List Version) := do
  if current = p.bootstrapVersion then
    return [current]
  let previous ←
    if current.major = p.bootstrapVersion.major then pure []
    else match p.previousMajor? current.major with
      | none => pure []
      | some previous => lines.developedBefore previous
  let released ← lines.released current p
  return dropRepeats (p.sortReleases (current :: previous ++ released.developed))

end RetainedLines

end ReleaseMatrix
