import ReleaseMatrix.Lines.Retained
import ReleaseMatrix.Policy.ReleaseOrder

/-!
# Compatible versions

The versions whose indices a current version reads, and those it talks to over the wire. Lines that
are not kept contribute nothing to either list.
-/

namespace ReleaseMatrix

/-- The list with the first occurrence of each member only. -/
def firstOccurrences {α : Type} [DecidableEq α] (xs : List α) : List α :=
  xs.foldl (fun seen x => if x ∈ seen then seen else seen ++ [x]) []

namespace RetainedLines

/-- The majors whose indices the current version reads: those of its transition, then the previous
major, then its own. -/
def indexMajors (current : Version) (p : Policy) : List Nat :=
  let extra := match p.transition? current.major with
    | some transition => transition.extraIndexMajors
    | none => []
  firstOccurrences (extra ++ (p.previousMajor? current.major).toList ++ [current.major])

/-- The versions whose indices the current version reads, line by line. -/
def indexCompatible (lines : RetainedLines) (current : Version) (p : Policy) : List Version :=
  ((indexMajors current p).flatMap lines.line).filter (· ≠ current)

/-- The versions of the newest minor on a major line. -/
def newestMinorLine (lines : RetainedLines) (major : Nat) : List Version :=
  match (lines.line major).getLast? with
  | some tip => (lines.line major).filter fun v => v.minor = tip.minor
  | none => []

/-- The versions that the current version talks to over the wire, in release order: the newest minor
of the wire-previous major, the further lines of the transition, and the current line. -/
def wireCompatible (lines : RetainedLines) (current : Version) (p : Policy) : List Version :=
  let previous := match p.wirePreviousMajor? current.major with
    | some major => lines.newestMinorLine major
    | none => []
  let extra := match p.transition? current.major with
    | some transition => transition.extraWireMajors.flatMap lines.line
    | none => []
  dropRepeats (p.sortReleases
    ((previous ++ extra ++ lines.line current.major).filter (· ≠ current)))

end RetainedLines

/-- The versions of a list that are unreleased, in the order of the list. -/
def retainUnreleased (versions unreleased : List Version) : List Version :=
  versions.filter (· ∈ unreleased)

end ReleaseMatrix
