import ReleaseMatrix.Proofs.Compatibility

/-!
# Released, unreleased and legacy versions

A kept version of a build is released, unreleased, or on a line that a predecessor project published;
such a line has no released versions of its own, but it may have unreleased ones. The three places
exclude each other and leave nothing out, although the unreleased versions are found as leaves and
the released ones by a filter of the kept lines. Everything behind the current version is older than
it: what is released, and what the current version has to be compatible with.
-/

namespace ReleaseMatrix

namespace Matrix

variable {declared : SortedSet Version} {current v : Version} {p : Policy} {m : Matrix}

/-! ### Released versions -/

/-- A version is released if it is kept, not unreleased and not on a legacy line. -/
theorem Built.mem_released (h : Built declared current p m) : v ∈ m.released ↔
    p.Keeps declared current v ∧ v ∉ m.unreleasedVersions ∧ ¬ p.isLegacy v.major := by
  rw [released, h.policy_eq, h.lines_eq, Policy.mem_sortReleases, List.mem_filter,
    RetainedLines.mem_versions_of, decide_eq_true_eq]

theorem Built.pairwise_released (h : Built declared current p m) :
    m.released.Pairwise p.Precedes := by
  have hlines : (RetainedLines.of declared current p).Ordered := RetainedLines.ordered_of
  rw [released, h.policy_eq, h.lines_eq]
  exact p.pairwise_sortReleases_of_nodup ((nodup_of_pairwise hlines.pairwise_versions).filter _)

/-! ### Older than the current version -/

theorem Built.precedes_of_keeps (h : Built declared current p m) (hv : p.Keeps declared current v)
    (hne : v ≠ current) : p.Precedes v current :=
  h.newest.2 v hv.1 hne

theorem Built.precedes_of_mem_line (h : Built declared current p m)
    (hv : v ∈ (RetainedLines.of declared current p).line v.major) (hne : v ≠ current) :
    p.Precedes v current :=
  h.precedes_of_keeps (RetainedLines.mem_line_of.1 hv).1 hne

theorem Built.precedes_of_mem_released (h : Built declared current p m) (hv : v ∈ m.released) :
    p.Precedes v current := by
  obtain ⟨hkeeps, hnot, -⟩ := h.mem_released.1 hv
  refine h.precedes_of_keeps hkeeps ?_
  rintro rfl
  exact hnot (h.mem_unreleasedVersions_iff.2 .current)

theorem Built.precedes_of_mem_indexCompatible (h : Built declared current p m)
    (hv : v ∈ m.indexCompatible) : p.Precedes v current := by
  rw [h.indexCompatible_eq] at hv
  obtain ⟨hline, -, hne⟩ := RetainedLines.ordered_of.mem_indexCompatible.1 hv
  exact h.precedes_of_mem_line hline hne

theorem Built.precedes_of_mem_wireCompatible (h : Built declared current p m)
    (hv : v ∈ m.wireCompatible) : p.Precedes v current := by
  rw [h.wireCompatible_eq] at hv
  obtain ⟨hline, -, hne⟩ := RetainedLines.ordered_of.mem_line_of_mem_wireCompatible hv
  exact h.precedes_of_mem_line hline hne

/-! ### The place of a version -/

/-- Where a kept version can stand in a matrix. -/
inductive Place where
  /-- Among the unreleased versions. -/
  | unreleased
  /-- Among the released versions. -/
  | released
  /-- On a legacy line, and not among the unreleased versions. -/
  | legacy

/-- Whether a version stands at a place. -/
def StandsAt (m : Matrix) (v : Version) : Place → Prop
  | .unreleased => v ∈ m.unreleasedVersions
  | .released => v ∈ m.released
  | .legacy => m.policy.isLegacy v.major ∧ v ∉ m.unreleasedVersions

/-- A kept version stands at one place. -/
theorem Built.existsUnique_place (h : Built declared current p m)
    (hv : p.Keeps declared current v) : ∃! place, m.StandsAt v place := by
  by_cases hunreleased : v ∈ m.unreleasedVersions
  · refine ⟨.unreleased, hunreleased, fun place hplace => ?_⟩
    cases place with
    | unreleased => rfl
    | released => exact absurd hunreleased (h.mem_released.1 hplace).2.1
    | legacy => exact absurd hunreleased hplace.2
  · by_cases hlegacy : p.isLegacy v.major
    · refine ⟨.legacy, ⟨h.policy_eq.symm ▸ hlegacy, hunreleased⟩, fun place hplace => ?_⟩
      cases place with
      | unreleased => exact absurd hplace hunreleased
      | released => exact absurd hlegacy (h.mem_released.1 hplace).2.2
      | legacy => rfl
    · refine ⟨.released, h.mem_released.2 ⟨hv, hunreleased, hlegacy⟩, fun place hplace => ?_⟩
      cases place with
      | unreleased => exact absurd hplace hunreleased
      | released => rfl
      | legacy => exact absurd (h.policy_eq ▸ hplace.1) hlegacy

/-- **Every kept version has one place**: it is unreleased, or released, or on a legacy line and not
unreleased. The released versions are kept ones in release order; they come before the current
version, and so does every version with which the current one has to be compatible. -/
theorem existsUnique_standsAt (h : build declared current p = .ok m) :
    (∀ v, p.Keeps declared current v → ∃! place, m.StandsAt v place) ∧
    m.released.Pairwise p.Precedes ∧ (∀ v ∈ m.released, p.Keeps declared current v) ∧
    ∀ v, v ∈ m.released ∨ v ∈ m.indexCompatible ∨ v ∈ m.wireCompatible →
      p.Precedes v current := by
  have hbuilt := build_eq_ok_iff.1 h
  refine ⟨fun v hv => hbuilt.existsUnique_place hv, hbuilt.pairwise_released, ?_, ?_⟩
  · intro v hv
    exact (hbuilt.mem_released.1 hv).1
  · rintro v (hv | hv | hv)
    · exact hbuilt.precedes_of_mem_released hv
    · exact hbuilt.precedes_of_mem_indexCompatible hv
    · exact hbuilt.precedes_of_mem_wireCompatible hv

/-- Line 7 belongs to the predecessor and is numerically above the current version. Its versions are
neither released nor unreleased, yet the current version is newer. -/
theorem existsUnique_standsAt_continuedLines :
    ∃ m, build continuedLines (.of 2 1 0) .standard = .ok m ∧
      m.released = [.of 1 2 0, .of 1 3 0, .of 2 0 0] ∧ m.StandsAt (.of 7 10 1) .legacy ∧
      (∃! place, m.StandsAt (.of 7 10 1) place) ∧
      .of 7 10 1 ∈ m.indexCompatible ∧ Policy.standard.Precedes (.of 7 10 1) (.of 2 1 0) := by
  refine ⟨_, rfl, rfl, ⟨rfl, by decide⟩, ?_⟩
  have h : build continuedLines (.of 2 1 0) .standard = .ok _ := rfl
  obtain ⟨hplace, -, -, hprecedes⟩ := existsUnique_standsAt h
  exact ⟨hplace _ ⟨by decide, by decide⟩, by decide, hprecedes _ (.inr (.inl (by decide)))⟩

end Matrix

end ReleaseMatrix
