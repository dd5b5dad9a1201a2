import ReleaseMatrix.Proofs.OwnVersions
import ReleaseMatrix.Proofs.Verdict

/-!
# The order of a verdict

A failed check names its versions in release order. For the released versions that are not published
this is the order of the numbers, since a legacy line has no released versions. The unreleased
versions that are published may be on a legacy line, and legacy versions come first whatever their
numbers. Unreleased versions are only on the current major and the one before it, so the numbers
fall once at most: where the project restarts its numbering, from a legacy line to an own one with a
smaller number.

## What is proved

* `Matrix.compare_ascending`: the first list ascends, and the second one does unless it has versions
  on both sides of a restart.
* `Matrix.ascending_of_not_followsPredecessor`: under the standard policy that takes a current
  version that is alone on line 1 and is not the first release.
-/

namespace ReleaseMatrix

/-! ### Release order and the order of the numbers -/

namespace Policy

variable {p : Policy} {major previous : Nat}

/-- A list in release order ascends exactly if no legacy version in it has greater numbers than an
own one. -/
theorem pairwise_lt_iff {versions : List Version} (h : versions.Pairwise p.Precedes) :
    versions.Pairwise (· < ·) ↔ ∀ v ∈ versions, ∀ w ∈ versions,
      p.isLegacy v.major → ¬ p.isLegacy w.major → v < w := by
  rw [pairwise_iff_of_pairwise h]
  refine forall₂_congr fun v _ => forall₂_congr fun w _ => ?_
  rw [precedes_def]
  constructor
  · intro hlt hlegacy hown
    exact hlt (.inl ⟨hlegacy, hown⟩)
  · rintro hlt (⟨hlegacy, hown⟩ | ⟨-, hvw⟩)
    · exact hlt hlegacy hown
    · exact hvw

/-- A major line of the project itself that follows a legacy line with a greater number. -/
structure Restarts (p : Policy) (major previous : Nat) : Prop where
  /-- The line is no legacy line. -/
  own : ¬ p.isLegacy major
  /-- It follows the other one. -/
  follows : p.previousMajor? major = some previous
  /-- That one is a legacy line. -/
  legacy : p.isLegacy previous
  /-- The number of the line is the smaller one. -/
  lt : major < previous

/-- The standard policy restarts the numbering with line 1, behind line 7. -/
theorem Restarts.standard (h : standard.Restarts major previous) : major = 1 ∧ previous = 7 := by
  obtain ⟨-, hfollows, hlegacy, hlt⟩ := h
  rw [standard_previousMajor?_eq_some_iff] at hfollows
  omega

end Policy

namespace Matrix

variable {declared : SortedSet Version} {current : Version} {p : Policy} {m : Matrix}
  {published : List Version} {d : Disagreement}

/-- Among unreleased versions the numbers fall only at a restart. -/
theorem Built.restarts (h : Built declared current p m) {v w : Version}
    (hv : v ∈ m.unreleasedVersions) (hw : w ∈ m.unreleasedVersions) (hlegacy : p.isLegacy v.major)
    (hown : ¬ p.isLegacy w.major) (hnot : ¬ v < w) :
    p.Restarts current.major v.major ∧ w.major = current.major := by
  have hmajors : v.major ≠ w.major := fun heq => hown (heq ▸ hlegacy)
  have hlt : w.major < v.major := by
    rw [Version.lt_def] at hnot
    omega
  -- otherwise the current version would be a legacy one, and not newer than an own version
  have hcurrent : ¬ p.isLegacy current.major := by
    intro hcurrent
    have hne : w ≠ current := fun heq => hown (heq ▸ hcurrent)
    have hprecedes := h.isLatest_unreleasedVersions.2 w hw hne
    rw [Policy.precedes_def] at hprecedes
    tauto
  have hvne : v.major ≠ current.major := fun heq => hcurrent (heq ▸ hlegacy)
  have hfollows : p.previousMajor? current.major = some v.major :=
    ((h.mem_unreleasedVersions_iff.1 hv).major_eq RetainedLines.ordered_of).resolve_left hvne
  have hwmajor : w.major = current.major := by
    by_contra hwne
    exact hmajors (h.major_eq_of_ne hv hw hvne hwne)
  exact ⟨⟨hcurrent, hfollows, hlegacy, hwmajor ▸ hlt⟩, hwmajor⟩

/-! ### The two lists -/

theorem Built.pairwise_notPublished (h : Built declared current p m) (published : List Version) :
    (m.disagreement published).notPublished.Pairwise (· < ·) := by
  have hverdict := h.exhausts_disagreement published
  refine (Policy.pairwise_lt_iff (h.policy_eq ▸ hverdict.notPublished_ordered)).2 ?_
  intro v hv _ _ hlegacy
  have hreleased := ((hverdict.mem_notPublished v).1 hv).1
  exact absurd hlegacy (h.mem_released.1 hreleased).2.2

theorem Built.pairwise_published_iff (h : Built declared current p m) (published : List Version) :
    (m.disagreement published).published.Pairwise (· < ·) ↔
      ¬ ∃ previous, p.Restarts current.major previous ∧
        (∃ v ∈ (m.disagreement published).published, v.major = previous) ∧
        ∃ v ∈ (m.disagreement published).published, v.major = current.major := by
  have hverdict := h.exhausts_disagreement published
  have hunreleased : ∀ v ∈ (m.disagreement published).published, v ∈ m.unreleasedVersions :=
    fun v hv => ((hverdict.mem_published v).1 hv).1
  rw [Policy.pairwise_lt_iff (h.policy_eq ▸ hverdict.published_ordered)]
  constructor
  · rintro hascending ⟨_, hrestarts, ⟨v, hv, rfl⟩, w, hw, hmajor⟩
    have hlt := hascending v hv w hw hrestarts.legacy (hmajor ▸ hrestarts.own)
    have hnumbers := hrestarts.lt
    rw [Version.lt_def] at hlt
    omega
  · intro hnone v hv w hw hlegacy hown
    by_contra hnot
    obtain ⟨hrestarts, hmajor⟩ :=
      h.restarts (hunreleased v hv) (hunreleased w hw) hlegacy hown hnot
    exact hnone ⟨v.major, hrestarts, ⟨v, hv, rfl⟩, w, hw, hmajor⟩

/-- **The order of a verdict.** If a check fails, the released versions that are not published are
named in ascending order, and the unreleased ones that are published in release order. The latter
ascend, too, unless the current major restarts the numbering behind a legacy line and versions on
both of these lines are named. -/
theorem compare_ascending (h : build declared current p = .ok m)
    (hd : m.compare published = .error d) :
    d.notPublished.Pairwise (· < ·) ∧ d.published.Pairwise p.Precedes ∧
    (d.published.Pairwise (· < ·) ↔ ¬ ∃ previous, p.Restarts current.major previous ∧
      (∃ v ∈ d.published, v.major = previous) ∧ ∃ v ∈ d.published, v.major = current.major) := by
  have hbuilt := build_eq_ok_iff.1 h
  obtain ⟨-, rfl⟩ := compare_eq_error_iff.1 hd
  have hordered := (hbuilt.exhausts_disagreement published).published_ordered
  exact ⟨hbuilt.pairwise_notPublished published, hbuilt.policy_eq ▸ hordered,
    hbuilt.pairwise_published_iff published⟩

/-- 1.3.1 and 2.0.1 are published too early, 1.2.0 and 2.0.0 are not published. Line 2 follows line
1, which is no legacy line, so both lists ascend. -/
theorem compare_ascending_continuedLines :
    ∃ m d, build continuedLines (.of 2 1 0) .standard = .ok m ∧
      m.compare [.of 2 0 1, .of 1 3 1, .of 1 3 0] = .error d ∧
      d.notPublished = [.of 1 2 0, .of 2 0 0] ∧ d.published = [.of 1 3 1, .of 2 0 1] ∧
      d.notPublished.Pairwise (· < ·) ∧ d.published.Pairwise (· < ·) := by
  have h : build continuedLines (.of 2 1 0) .standard = .ok _ := rfl
  obtain ⟨hreleased, -, hunreleased⟩ :=
    @compare_ascending _ _ _ _ [.of 2 0 1, .of 1 3 1, .of 1 3 0] _ h rfl
  refine ⟨_, _, h, rfl, rfl, rfl, hreleased, hunreleased.2 ?_⟩
  rintro ⟨previous, hrestarts, -⟩
  exact absurd hrestarts.standard.1 (by decide)

/-- Line 1 restarts the numbering behind line 7. With a version on each of them unreleased and
published, the legacy one is named first, though its numbers are greater. -/
theorem published_not_ascending_loneRestart :
    ∃ m d, build loneRestart (.of 1 1 0) .standard = .ok m ∧
      m.compare [.of 7 10 2, .of 1 1 0] = .error d ∧
      d.published = [.of 7 10 2, .of 1 1 0] ∧ ¬ d.published.Pairwise (· < ·) :=
  ⟨_, _, rfl, rfl, rfl, by decide⟩

/-- Under the standard policy both lists ascend, unless the current version follows the predecessor.
-/
theorem ascending_of_not_followsPredecessor (h : build declared current .standard = .ok m)
    (hd : m.compare published = .error d) (hnot : ¬ FollowsPredecessor declared current) :
    d.notPublished.Pairwise (· < ·) ∧ d.published.Pairwise (· < ·) := by
  have hbuilt := build_eq_ok_iff.1 h
  obtain ⟨-, rfl⟩ := compare_eq_error_iff.1 hd
  refine ⟨hbuilt.pairwise_notPublished published, (hbuilt.pairwise_published_iff published).2 ?_⟩
  rintro ⟨previous, hrestarts, ⟨v, hv, rfl⟩, -⟩
  have hunreleased := (((hbuilt.exhausts_disagreement published).mem_published v).1 hv).1
  exact hnot ((hbuilt.mem_unreleasedVersions_iff.1 hunreleased).followsPredecessor hbuilt.newest
    (.inl hrestarts.standard.1) hrestarts.legacy)

end Matrix

end ReleaseMatrix
