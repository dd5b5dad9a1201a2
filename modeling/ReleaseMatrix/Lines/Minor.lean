import ReleaseMatrix.Lines.Retained

/-!
# Minor lines

The versions of one major line, grouped by minor. The released lines of a current version are those
in which its released minors are followed: the minors of its own major, or of the major before it
while the current version is alone on its own.
-/

namespace ReleaseMatrix

/-- The versions of one major line, grouped by minor. -/
structure MinorLines where
  /-- The versions of each minor. -/
  table : Table (List Version)
deriving DecidableEq

namespace MinorLines

/-- No minors. -/
def empty : MinorLines := ⟨.empty⟩

/-- The versions of a list, grouped by minor. -/
def of (line : List Version) : MinorLines := ⟨.groupBy Version.minor line⟩

/-- The greatest minor. -/
def greatestMinor? (lines : MinorLines) : Option Nat := lines.table.keys.getLast?

/-- The versions of a minor in the order in which they were given. -/
def line (lines : MinorLines) (minor : Nat) : List Version := lines.table.group minor

/-- The newest version of a minor. -/
def newest? (lines : MinorLines) (minor : Nat) : Option Version := (lines.line minor).max?

/-- Whether a version was given. -/
def contains (lines : MinorLines) (v : Version) : Bool := v ∈ lines.line v.minor

/-- Whether a minor has a single version. -/
def IsSingle (lines : MinorLines) (minor : Nat) : Prop := (lines.line minor).length = 1

instance (lines : MinorLines) (minor : Nat) : Decidable (lines.IsSingle minor) :=
  inferInstanceAs (Decidable ((lines.line minor).length = 1))

/-- The versions of a minor among the given ones, in their order. -/
theorem line_of (versions : List Version) (minor : Nat) :
    (of versions).line minor = versions.filter fun v => v.minor = minor :=
  Table.group_groupBy _ _ _

end MinorLines

/-- The minor lines in which the released minors of a current version are followed. A line zero that
has one version and no line before it has none. -/
def RetainedLines.released (lines : RetainedLines) (current : Version) (p : Policy) :
    Except MatrixError MinorLines :=
  let own := lines.line current.major
  if own.length = 1 then
    match p.previousMajor? current.major with
    | none => .ok .empty
    | some previous =>
      if lines.line previous = [] then .error (.missingLine previous)
      else .ok (.of (lines.line previous))
  else .ok (.of own)

end ReleaseMatrix
