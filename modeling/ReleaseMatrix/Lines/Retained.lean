import ReleaseMatrix.Collection.Search
import ReleaseMatrix.Matrix.Error
import ReleaseMatrix.Policy.Basic

/-!
# Retained major lines

A build keeps the major lines that its policy retains for the current version, each with its
declared versions in ascending order. The lines are a table keyed by majors. Its look-ups give a
whole line, the newest version of a line or of one of its minors, and whether a version is kept.
-/

namespace ReleaseMatrix

/-- The declared versions of the major lines that a build keeps. -/
structure RetainedLines where
  /-- The versions of each kept major. -/
  table : Table (List Version)
deriving DecidableEq

namespace RetainedLines

/-- The lines that the policy retains when `current` is the current version. -/
def of (declared : SortedSet Version) (current : Version) (p : Policy) : RetainedLines :=
  ⟨.groupBy Version.major (declared.toList.filter fun v => p.Retains current.major v.major)⟩

/-- The kept majors in ascending order. -/
def majors (lines : RetainedLines) : List Nat := lines.table.keys

/-- The versions on a major line in ascending order; none if the line is not kept. -/
def line (lines : RetainedLines) (major : Nat) : List Version := lines.table.group major

/-- All kept versions, line by line. -/
def versions (lines : RetainedLines) : List Version := lines.table.rows.flatMap (·.2)

/-- The newest version on a major line. -/
def newest (lines : RetainedLines) (major : Nat) : Except MatrixError Version :=
  match (lines.line major).getLast? with
  | some v => .ok v
  | none => .error (.missingLine major)

/-- The newest version of one minor on a major line. -/
def newestInMinor? (lines : RetainedLines) (major minor : Nat) : Option Version :=
  ((lines.line major).filter fun v => v.minor = minor).max?

/-- Whether a version is declared on a kept line, which is searched by halves. -/
def contains (lines : RetainedLines) (v : Version) : Bool := searchSorted v (lines.line v.major)

/-- A kept line has exactly the declared versions on it that the policy retains, in their order. -/
theorem line_of (declared : SortedSet Version) (current : Version) (p : Policy) (major : Nat) :
    (of declared current p).line major =
      declared.toList.filter fun v => v.major = major ∧ p.Retains current.major major := by
  rw [line, of, Table.group_groupBy, List.filter_filter]
  refine List.filter_congr fun v _ => ?_
  by_cases h : v.major = major <;> simp [h]

end RetainedLines

end ReleaseMatrix
