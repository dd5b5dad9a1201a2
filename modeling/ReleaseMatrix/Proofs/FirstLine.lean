import ReleaseMatrix.Proofs.Retention

/-!
# The first line

The first line of a project follows no other. As long as nothing else is declared, what is in
development is found on that line alone, and the current version has to be compatible with
everything else that is declared. Nothing is lacking, so one stage only can refuse the matrix, the
count of the lines: behind a first minor and a first revision it refuses a single line if the policy
expects more. The standard policy expects three lines of a version on line 0, as of any below line
3, since it takes the lines of the predecessor to be declared as well.

## What is proved

* `IsFirstLine.exists_unreleased`, `IsFirstLine.indexCompatible_eq`,
  `IsFirstLine.wireCompatible_eq`: what is found on a first line, under any policy.
* `IsFirstLine.build_eq_error_of_miscounted`, `IsFirstLine.exists_build_of_counted`: how the
  construction ends.
* `Matrix.build_lineZero`: both for line 0 under the standard policy.
-/

namespace ReleaseMatrix

/-- All declared versions are on the line of the newest one, which is kept and has neither a line
before it nor a transition. -/
structure IsFirstLine (declared : SortedSet Version) (current : Version) (p : Policy) : Prop where
  /-- The current version is the newest. -/
  newest : IsLatest (· < ·) declared.toList current
  /-- Nothing is declared on another line. -/
  major_eq : ∀ v ∈ declared, v.major = current.major
  /-- The line is kept. -/
  retains : p.Retains current.major current.major
  /-- The line follows no other. -/
  previous : p.previousMajor? current.major = none
  /-- The line works with no further ones. -/
  transition : p.transition? current.major = none

namespace IsFirstLine

open RetainedLines

variable {declared : SortedSet Version} {current : Version} {p : Policy}

/-! ### What is found on the line -/

theorem isLatest (h : IsFirstLine declared current p) :
    IsLatest p.Precedes declared.toList current := by
  refine ⟨h.newest.1, fun v hv hne => ?_⟩
  exact (Policy.precedes_iff_lt (h.major_eq v hv)).2 (h.newest.2 v hv hne)

theorem line_eq (h : IsFirstLine declared current p) :
    (of declared current p).line current.major = declared.toList := by
  rw [line_of, List.filter_eq_self]
  intro v hv
  rw [decide_eq_true_eq]
  exact ⟨h.major_eq v hv, h.retains⟩

theorem majors_eq (h : IsFirstLine declared current p) :
    (of declared current p).majors = [current.major] := by
  refine (Matrix.keptMajors_iff.1 ⟨List.pairwise_singleton _ _, fun major => ?_⟩).symm
  rw [List.mem_singleton]
  constructor
  · rintro rfl
    exact ⟨current, ⟨h.newest.1, h.retains⟩, rfl⟩
  · rintro ⟨v, ⟨hv, -⟩, rfl⟩
    exact h.major_eq v hv

theorem not_lacks (h : IsFirstLine declared current p) (major : Nat) :
    ¬ Matrix.Lacks declared current p major := by
  rintro ⟨-, hprevious, -⟩
  rw [h.previous] at hprevious
  cases hprevious

/-- The versions in development are known, and they are on the line. -/
theorem exists_unreleased (h : IsFirstLine declared current p) :
    ∃ versions, (of declared current p).unreleased current p = .ok versions ∧
      ∀ v ∈ versions, v.major = current.major := by
  have hlines : (of declared current p).Ordered := ordered_of
  obtain ⟨versions, hversions, -, hmem⟩ :=
    hlines.exists_unreleased fun major hlacks => h.not_lacks major (Matrix.lacks_iff.2 hlacks)
  refine ⟨versions, hversions, fun v hv => ?_⟩
  rcases ((hmem v).1 hv).major_eq hlines with hown | hprevious
  · exact hown
  · rw [h.previous] at hprevious
    cases hprevious

/-- The indices of all other versions are read. -/
theorem indexCompatible_eq (h : IsFirstLine declared current p) :
    (of declared current p).indexCompatible current p = declared.toList.filter (· ≠ current) := by
  have hmajors : indexMajors current p = [current.major] := by
    rw [indexMajors, h.transition, h.previous]
    rfl
  rw [indexCompatible, hmajors, List.flatMap_singleton, h.line_eq]

/-- All other versions are talked to. -/
theorem wireCompatible_eq (h : IsFirstLine declared current p) :
    (of declared current p).wireCompatible current p = declared.toList.filter (· ≠ current) := by
  have hline : IsLine current.major declared.toList := h.line_eq ▸ ordered_of current.major
  have hprevious : p.wirePreviousMajor? current.major = none := by
    rw [Policy.wirePreviousMajor?, h.transition, h.previous]
    rfl
  refine eq_of_pairwise_of_mem_iff (r := p.Precedes) pairwise_wireCompatible
    (hline.pairwise_precedes.filter _) fun v => ?_
  rw [mem_wireCompatible, hprevious, h.transition, h.line_eq, List.mem_filter, decide_eq_true_eq,
    and_comm]
  simp

/-! ### How the construction ends -/

theorem miscounted_iff (h : IsFirstLine declared current p) :
    Matrix.Miscounted declared current p ↔
      current.minor ≠ 0 ∧ current.revision ≠ 0 ∧ p.expectedMajorCount current.major ≠ 1 := by
  rw [Matrix.miscounted_iff, h.majors_eq, List.length_singleton, ne_comm (a := 1)]

theorem build_eq_error_of_miscounted (h : IsFirstLine declared current p)
    (count : Matrix.Miscounted declared current p) : Matrix.build declared current p =
      .error (.majorCount (p.expectedMajorCount current.major) [current.major]) :=
  Matrix.build_eq_error (.majorCount h.isLatest count (Matrix.keptMajors_iff.2 h.majors_eq.symm))

/-- A matrix that is not refused for the count is made, and holds what is found on the line. -/
theorem exists_build_of_counted (h : IsFirstLine declared current p)
    (count : ¬ Matrix.Miscounted declared current p) :
    ∃ m, Matrix.build declared current p = .ok m ∧
      (∀ v ∈ m.unreleasedVersions, v.major = current.major) ∧
      m.indexCompatible = declared.toList.filter (· ≠ current) ∧
      m.wireCompatible = declared.toList.filter (· ≠ current) := by
  obtain ⟨m, hm⟩ := Matrix.exists_build h.isLatest count h.not_lacks
  have hbuilt := Matrix.build_eq_ok_iff.1 hm
  obtain ⟨versions, hversions, hmajor⟩ := h.exists_unreleased
  rw [hbuilt.unreleased_eq] at hversions
  cases hversions
  exact ⟨m, hm, hmajor, hbuilt.indexCompatible_eq.trans h.indexCompatible_eq,
    hbuilt.wireCompatible_eq.trans h.wireCompatible_eq⟩

end IsFirstLine

namespace Matrix

variable {declared : SortedSet Version} {current : Version}

theorem isFirstLine_zero (hmax : IsLatest (· < ·) declared.toList current)
    (hzero : ∀ v ∈ declared, v.major = 0) : IsFirstLine declared current .standard := by
  have hcurrent : current.major = 0 := hzero current hmax.1
  refine ⟨hmax, fun v hv => (hzero v hv).trans hcurrent.symm,
    Policy.retains_self (by decide) _, ?_, ?_⟩
  · rw [hcurrent]
    rfl
  · rw [hcurrent]
    rfl

/-- **Line 0 under the standard policy.** If all declared versions are on line 0, so are those in
development, and the newest version has to be compatible with all others, both for indices and over
the wire. The matrix that says so is made for the first revision of a minor and for every revision
of the first minor; behind both it is refused, since three lines are expected. -/
theorem build_lineZero (hmax : IsLatest (· < ·) declared.toList current)
    (hzero : ∀ v ∈ declared, v.major = 0) :
    (∃ versions, (RetainedLines.of declared current .standard).unreleased current .standard =
      .ok versions ∧ ∀ v ∈ versions, v.major = 0) ∧
    (RetainedLines.of declared current .standard).indexCompatible current .standard =
      declared.toList.filter (· ≠ current) ∧
    (RetainedLines.of declared current .standard).wireCompatible current .standard =
      declared.toList.filter (· ≠ current) ∧
    (current.minor ≠ 0 ∧ current.revision ≠ 0 →
      build declared current .standard = .error (.majorCount 3 [0])) ∧
    (current.minor = 0 ∨ current.revision = 0 →
      ∃ m, build declared current .standard = .ok m ∧ (∀ v ∈ m.unreleasedVersions, v.major = 0) ∧
        m.indexCompatible = declared.toList.filter (· ≠ current) ∧
        m.wireCompatible = declared.toList.filter (· ≠ current)) := by
  have hfirst := isFirstLine_zero hmax hzero
  have hcurrent : current.major = 0 := hzero current hmax.1
  have hexpected : Policy.standard.expectedMajorCount current.major = 3 := by
    rw [hcurrent]
    rfl
  have hcount : Miscounted declared current .standard ↔
      current.minor ≠ 0 ∧ current.revision ≠ 0 := by
    rw [hfirst.miscounted_iff, hexpected]
    simp
  have hunreleased := hfirst.exists_unreleased
  have hmade := hfirst.exists_build_of_counted
  simp only [hcurrent] at hunreleased hmade
  refine ⟨hunreleased, hfirst.indexCompatible_eq, hfirst.wireCompatible_eq, ?_, ?_⟩
  · intro hlater
    have herror := hfirst.build_eq_error_of_miscounted (hcount.2 hlater)
    rw [hexpected, hcurrent] at herror
    exact herror
  · intro hearly
    refine hmade fun hmiscounted => ?_
    obtain ⟨hminor, hrevision⟩ := hcount.1 hmiscounted
    exact hearly.elim hminor hrevision

/-- Two minors of line 0. -/
def lineZero : SortedSet Version := .ofList [.of 0 1 0, .of 0 1 1, .of 0 2 0]

/-- A new minor has a matrix, with the last revision before it unreleased. -/
theorem build_lineZero_newMinor :
    IsLatest (· < ·) lineZero.toList (.of 0 2 0) ∧ (∀ v ∈ lineZero, v.major = 0) ∧
      ∃ m, build lineZero (.of 0 2 0) .standard = .ok m ∧
        m.unreleasedVersions = [.of 0 1 1, .of 0 2 0] ∧
        m.indexCompatible = [.of 0 1 0, .of 0 1 1] ∧ m.wireCompatible = [.of 0 1 0, .of 0 1 1] := by
  have hmax : IsLatest (· < ·) lineZero.toList (.of 0 2 0) := ⟨by decide, by decide⟩
  have hzero : ∀ v ∈ lineZero, v.major = 0 := by decide
  obtain ⟨-, -, -, -, hmade⟩ := build_lineZero hmax hzero
  obtain ⟨m, hm, -, hindex, hwire⟩ := hmade (.inr rfl)
  have hversions := congrArg (Except.map unreleasedVersions) hm
  exact ⟨hmax, hzero, m, hm, (Except.ok.inj hversions).symm, hindex, hwire⟩

/-- The second minor of line 0 with a revision. -/
def laterRevision : SortedSet Version := .ofList [.of 0 1 0, .of 0 1 1]

/-- For that revision there is no matrix, only because no other line is declared. -/
theorem build_laterRevision_eq_error :
    IsLatest (· < ·) laterRevision.toList (.of 0 1 1) ∧ (∀ v ∈ laterRevision, v.major = 0) ∧
      build laterRevision (.of 0 1 1) .standard = .error (.majorCount 3 [0]) ∧
      ¬ ∃ m, build laterRevision (.of 0 1 1) .standard = .ok m := by
  have herror : build laterRevision (.of 0 1 1) .standard = .error (.majorCount 3 [0]) := rfl
  refine ⟨⟨by decide, by decide⟩, by decide, herror, ?_⟩
  rintro ⟨m, hm⟩
  rw [herror] at hm
  cases hm

end Matrix

end ReleaseMatrix
