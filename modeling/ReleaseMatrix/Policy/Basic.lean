import ReleaseMatrix.Collection.SortedSet
import ReleaseMatrix.Collection.Table
import ReleaseMatrix.Version.Basic

/-!
# Lineage policies

A policy holds what is particular to the history of one project: which major line follows which,
which lines a predecessor project published, how many lines a build keeps, and which further lines
it has to work with while the numbering changes over. The standard policy is that of a project whose
line 1 continues line 7 of a predecessor, and that carries three lines instead of two until its
third.
-/

namespace ReleaseMatrix

/-- The span of current majors in which another number of major lines is expected. -/
structure LegacyWindow where
  /-- The first current major behind the window. -/
  untilMajor : Nat
  /-- The number of major lines expected inside the window. -/
  supportedMajors : Nat
deriving DecidableEq

/-- The further lines that one current major works with. -/
structure Transition where
  /-- The current major to which the transition applies. -/
  major : Nat
  /-- The major whose newest minor takes part over the wire, if it is not the previous major. -/
  wirePreviousMajor : Option Nat
  /-- Further majors whose indices are read. -/
  extraIndexMajors : List Nat
  /-- Further majors that take part over the wire. -/
  extraWireMajors : List Nat
deriving DecidableEq

/-- What is particular to the history of one project. -/
structure Policy where
  /-- The branch on which the current version is built. -/
  trunkBranch : String
  /-- The first release of the project, which has no predecessors to work with. -/
  bootstrapVersion : Version
  /-- The majors that continue another numbering, each with the major it follows. -/
  majorAliases : Table Nat
  /-- How many majors a build keeps, the current one included, counted through the aliases. -/
  retainedMajors : Nat
  /-- The number of major lines expected outside the legacy window. -/
  supportedMajors : Nat
  /-- The span of current majors with another expected number of lines, if there is one. -/
  legacyWindow : Option LegacyWindow
  /-- The lines that a predecessor project published. -/
  legacyMajors : SortedSet Nat
  /-- The further lines of single current majors; the first entry for a major counts. -/
  transitions : List Transition
deriving DecidableEq

namespace Policy

/-- The policy of a project whose line 1 continues line 7 of its predecessor. -/
def standard : Policy where
  trunkBranch := "master"
  bootstrapVersion := { major := 1, minor := 0, revision := 0 }
  majorAliases := .ofList [(1, 7)]
  retainedMajors := 2
  supportedMajors := 2
  legacyWindow := some { untilMajor := 3, supportedMajors := 3 }
  legacyMajors := .ofList [6, 7]
  transitions := [
    { major := 1, wirePreviousMajor := some 6, extraIndexMajors := [6], extraWireMajors := [7] },
    { major := 2, wirePreviousMajor := some 7, extraIndexMajors := [7], extraWireMajors := [1] }]

instance : Inhabited Policy := ⟨standard⟩

variable (p : Policy)

/-- The place of a major line in the history of the project. -/
def effectiveMajor (major : Nat) : Nat := (p.majorAliases.get? major).getD major

/-- Whether a major line was published by a predecessor project. -/
def isLegacy (major : Nat) : Bool := major ∈ p.legacyMajors

/-- The major line that a major line follows; a line zero without an alias follows none. -/
def previousMajor? (major : Nat) : Option Nat :=
  match p.majorAliases.get? major with
  | some previous => some previous
  | none => if major = 0 then none else some (major - 1)

/-- Whether a build whose current version is on `current` keeps the line `major`. -/
def Retains (current major : Nat) : Prop :=
  p.effectiveMajor current < p.effectiveMajor major + p.retainedMajors

instance (current major : Nat) : Decidable (p.Retains current major) :=
  inferInstanceAs (Decidable (p.effectiveMajor current < p.effectiveMajor major + p.retainedMajors))

/-- The number of major lines expected when the current version is on the line. -/
def expectedMajorCount (current : Nat) : Nat :=
  match p.legacyWindow with
  | some window => if current < window.untilMajor then window.supportedMajors else p.supportedMajors
  | none => p.supportedMajors

/-- The transition of a current major. -/
def transition? (current : Nat) : Option Transition :=
  p.transitions.find? fun t => t.major = current

/-- The major whose newest minor takes part over the wire: that of the transition, if it names one,
or else the previous major. -/
def wirePreviousMajor? (current : Nat) : Option Nat :=
  ((p.transition? current).bind (·.wirePreviousMajor)).or (p.previousMajor? current)

end Policy

end ReleaseMatrix
