import Mathlib.Data.List.Perm.Subperm
import ReleaseMatrix.Proofs.Construction

/-!
# Unreleased versions are leaves

The versions of a project form a tree: a major line has minors, and a minor has revisions. A number
is added at the end of a branch as soon as the one before it is released, so what is unreleased are
leaves of that tree. No two unreleased versions share a minor, all are on the current major or the
one before it, and there are at most five of them, although the ways to be in development name six.
-/

namespace ReleaseMatrix

namespace RetainedLines

variable {declared : SortedSet Version} {current v : Version} {p : Policy}

/-- The newest declared version is the newest of its line, if that line is kept. -/
theorem isLatest_line (hnewest : IsLatest p.Precedes declared.toList current)
    (hretains : p.Retains current.major current.major) :
    IsLatest (· < ·) ((of declared current p).line current.major) current := by
  refine ⟨mem_line_of.2 ⟨⟨hnewest.1, hretains⟩, rfl⟩, fun v hv hne => ?_⟩
  obtain ⟨⟨hdeclared, -⟩, hmajor⟩ := mem_line_of.1 hv
  exact (Policy.precedes_iff_lt hmajor).1 (hnewest.2 v hdeclared hne)

/-- The newest version on the line of the newest declared version is that version. -/
theorem eq_of_isLatest_line (hnewest : IsLatest p.Precedes declared.toList current) {t : Version}
    (ht : IsLatest (· < ·) ((of declared current p).line current.major) t) : t = current := by
  obtain ⟨⟨-, hretains⟩, hmajor⟩ := mem_line_of.1 ht.1
  exact ht.unique (isLatest_line hnewest (hmajor ▸ hretains))

/-- A version in development is the newest that is declared of its minor. -/
theorem InDevelopment.le_of_declared (hnewest : IsLatest p.Precedes declared.toList current)
    (h : (of declared current p).InDevelopment current p v) {w : Version} (hw : w ∈ declared)
    (hmajor : w.major = v.major) (hminor : w.minor = v.minor) : w ≤ v := by
  by_cases hne : v = current
  · subst hne
    exact p.le_of_isLatest hnewest hw hmajor
  · obtain ⟨hv, hle⟩ := h.isLeaf ordered_of hne
    obtain ⟨⟨-, hretains⟩, -⟩ := mem_line_of.1 hv
    exact hle w (mem_line_of.2 ⟨⟨hw, hmajor ▸ hretains⟩, hmajor⟩) hminor

theorem InDevelopment.mem_declared (hnewest : IsLatest p.Precedes declared.toList current)
    (h : (of declared current p).InDevelopment current p v) : v ∈ declared := by
  by_cases hne : v = current
  · exact hne ▸ hnewest.1
  · exact (mem_line_of.1 (h.isLeaf ordered_of hne).1).1.1

/-- A version in development is on the current major or on the one before it. -/
theorem InDevelopment.major_eq {lines : RetainedLines} (hlines : lines.Ordered)
    (h : lines.InDevelopment current p v) :
    v.major = current.major ∨ p.previousMajor? current.major = some v.major := by
  cases h with
  | current => exact .inl rfl
  | before _ _ hprevious hv =>
    rw [(hlines _).major_eq v hv.isLeaf.1]
    exact .inr hprevious
  | released _ hv =>
    have hmem := hv.isLeaf.1
    rw [releasedLine] at hmem
    split at hmem
    · split at hmem
      · exact absurd hmem List.not_mem_nil
      · rename_i hprevious
        rw [(hlines _).major_eq v hmem]
        exact .inr hprevious
    · exact .inl ((hlines _).major_eq v hmem)

end RetainedLines

/-! ### How many minors have a version in development -/

/-- What is developed on a line is on its newest minor or up to two minors below. -/
theorem Developed.minor_mem {line : List Version} {t v : Version} (h : Developed line v)
    (ht : IsLatest (· < ·) line t) : v.minor ∈ [t.minor, t.minor - 1, t.minor - 2] := by
  simp only [List.mem_cons]
  cases h with
  | tip hv => exact .inl (congrArg _ (hv.unique ht))
  | below ht' _ _ hv =>
    rw [ht'.unique ht] at hv
    omega
  | staged ht' _ _ _ hv =>
    rw [ht'.unique ht] at hv
    omega

/-- What is developed on the line before is on its newest minor or on the minor below. -/
theorem DevelopedBefore.minor_mem {line : List Version} {t v : Version}
    (h : DevelopedBefore line v) (ht : IsLatest (· < ·) line t) :
    v.minor ∈ [t.minor, t.minor - 1] := by
  simp only [List.mem_cons]
  cases h with
  | tip hv => exact .inl (congrArg _ (hv.unique ht))
  | below ht' _ _ hv =>
    rw [ht'.unique ht] at hv
    omega

namespace RetainedLines

variable {declared : SortedSet Version} {current : Version} {p : Policy}

/-- One major and one minor bound what is in development on the previous major. -/
theorem Ordered.exists_previous {lines : RetainedLines} (hlines : lines.Ordered)
    (current : Version) (p : Policy) :
    ∃ major minor, ∀ previous, p.previousMajor? current.major = some previous → ∀ v,
      (Developed (lines.line previous) v →
        (v.major, v.minor) ∈ [minor, minor - 1, minor - 2].map (Prod.mk major)) ∧
      (DevelopedBefore (lines.line previous) v →
        (v.major, v.minor) ∈ [minor, minor - 1].map (Prod.mk major)) := by
  cases hprevious : p.previousMajor? current.major with
  | none => exact ⟨0, 0, fun _ h => by cases h⟩
  | some previous =>
    by_cases hne : lines.line previous = []
    · refine ⟨previous, 0, ?_⟩
      rintro _ ⟨⟩ v
      rw [hne]
      exact ⟨fun hv => absurd hv.isLeaf.1 List.not_mem_nil,
        fun hv => absurd hv.isLeaf.1 List.not_mem_nil⟩
    · obtain ⟨t, ht⟩ := (hlines previous).exists_isLatest hne
      refine ⟨previous, t.minor, ?_⟩
      rintro _ ⟨⟩ v
      refine ⟨fun hv => ?_, fun hv => ?_⟩
      · rw [(hlines previous).major_eq v hv.isLeaf.1]
        exact List.mem_map_of_mem (hv.minor_mem ht)
      · rw [(hlines previous).major_eq v hv.isLeaf.1]
        exact List.mem_map_of_mem (hv.minor_mem ht)

/-- The versions in development are on at most five minors. While the current version is alone on
its major, the cascade runs on the previous major, whose newest version is in development anyway;
otherwise it starts at the current version itself. -/
theorem exists_minors (hnewest : IsLatest p.Precedes declared.toList current) :
    ∃ minors : List (Nat × Nat), minors.length ≤ 5 ∧
      ∀ v, (of declared current p).InDevelopment current p v → (v.major, v.minor) ∈ minors := by
  have hlines : (of declared current p).Ordered := ordered_of
  obtain ⟨major, minor, hprevious⟩ := hlines.exists_previous current p
  by_cases hown : ((of declared current p).line current.major).length = 1
  · refine ⟨(current.major, current.minor) :: [minor, minor - 1, minor - 2].map (Prod.mk major),
      by simp, fun v hv => ?_⟩
    cases hv with
    | current => exact List.mem_cons_self
    | before _ _ h hv =>
      refine List.mem_cons_of_mem _ (List.map_subset _ ?_ ((hprevious _ h v).2 hv))
      exact List.cons_subset_cons _ (by simp)
    | released _ hv =>
      rw [releasedLine, if_pos hown] at hv
      split at hv
      · exact absurd hv.isLeaf.1 List.not_mem_nil
      · rename_i h
        exact List.mem_cons_of_mem _ ((hprevious _ h v).1 hv)
  · refine ⟨[current.minor, current.minor - 1, current.minor - 2].map (Prod.mk current.major) ++
      [minor, minor - 1].map (Prod.mk major), by simp, fun v hv => ?_⟩
    cases hv with
    | current => simp
    | before _ _ h hv => exact List.mem_append_right _ ((hprevious _ h v).2 hv)
    | released _ hv =>
      rw [releasedLine, if_neg hown] at hv
      obtain ⟨t, ht⟩ := (hlines _).exists_isLatest (List.ne_nil_of_mem hv.isLeaf.1)
      have hminor := hv.minor_mem ht
      rw [eq_of_isLatest_line hnewest ht] at hminor
      rw [(hlines _).major_eq v hv.isLeaf.1]
      exact List.mem_append_left _ (List.mem_map_of_mem hminor)

end RetainedLines

/-! ### The unreleased versions of a matrix -/

namespace Matrix

variable {declared : SortedSet Version} {current : Version} {p : Policy} {m : Matrix}

/-- No two unreleased versions share a minor. -/
theorem Built.pairwise_minor_ne (h : Built declared current p m) :
    m.unreleasedVersions.Pairwise fun v w => (v.major, v.minor) ≠ (w.major, w.minor) := by
  refine h.pairwise_unreleasedVersions.imp_of_mem ?_
  intro v w hv hw hvw heq
  obtain ⟨hmajor, hminor⟩ := Prod.mk.inj heq
  have hdv := h.mem_unreleasedVersions_iff.1 hv
  have hdw := h.mem_unreleasedVersions_iff.1 hw
  have hle : v ≤ w := hdw.le_of_declared h.newest (hdv.mem_declared h.newest) hmajor hminor
  have hle' : w ≤ v :=
    hdv.le_of_declared h.newest (hdw.mem_declared h.newest) hmajor.symm hminor.symm
  have hlt : v < w := (Policy.precedes_iff_lt hmajor).1 hvw
  exact Version.le_iff_not_lt.1 hle' hlt

theorem Built.length_unreleasedVersions_le (h : Built declared current p m) :
    m.unreleasedVersions.length ≤ 5 := by
  obtain ⟨minors, hlength, hminors⟩ := RetainedLines.exists_minors (p := p) h.newest
  have hnodup : (m.unreleasedVersions.map fun v => (v.major, v.minor)).Nodup :=
    List.pairwise_map.2 h.pairwise_minor_ne
  have hsubset : (m.unreleasedVersions.map fun v => (v.major, v.minor)) ⊆ minors := by
    intro x hx
    obtain ⟨v, hv, rfl⟩ := List.mem_map.1 hx
    exact hminors v (h.mem_unreleasedVersions_iff.1 hv)
  calc m.unreleasedVersions.length
      = (m.unreleasedVersions.map fun v => (v.major, v.minor)).length := by simp
    _ ≤ minors.length := (hnodup.subperm hsubset).length_le
    _ ≤ 5 := hlength

/-- The current version is the newest of the unreleased versions. -/
theorem Built.isLatest_unreleasedVersions (h : Built declared current p m) :
    IsLatest p.Precedes m.unreleasedVersions current := by
  refine ⟨h.mem_unreleasedVersions_iff.2 .current, ?_⟩
  intro v hv hne
  exact h.newest.2 v ((h.mem_unreleasedVersions_iff.1 hv).mem_declared h.newest) hne

/-- **Unreleased versions are leaves.** They are in release order and end with the current version;
each is declared, is the newest declared version of its minor, and is on the current major or the
one before it; no two share a minor; there are at most five. -/
theorem unreleased_leaves (h : build declared current p = .ok m) :
    m.unreleasedVersions.Pairwise p.Precedes ∧
    m.unreleasedVersions.getLast? = some current ∧
    (∀ v ∈ m.unreleasedVersions, v ∈ declared ∧
      (∀ w ∈ declared, w.major = v.major → w.minor = v.minor → w ≤ v) ∧
      (v.major = current.major ∨ p.previousMajor? current.major = some v.major)) ∧
    (m.unreleasedVersions.Pairwise fun v w => (v.major, v.minor) ≠ (w.major, w.minor)) ∧
    m.unreleasedVersions.length ≤ 5 := by
  have hbuilt := build_eq_ok_iff.1 h
  have hpairwise := hbuilt.pairwise_unreleasedVersions
  refine ⟨hpairwise, ?_, ?_, hbuilt.pairwise_minor_ne, hbuilt.length_unreleasedVersions_le⟩
  · exact (getLast?_eq_some_iff_of_pairwise hpairwise).2 hbuilt.isLatest_unreleasedVersions
  · intro v hv
    have hdev := hbuilt.mem_unreleasedVersions_iff.1 hv
    refine ⟨hdev.mem_declared hbuilt.newest, ?_, hdev.major_eq RetainedLines.ordered_of⟩
    intro w hw hmajor hminor
    exact hdev.le_of_declared hbuilt.newest hw hmajor hminor

/-- Two major lines, each of which ends with a staged minor and a new one. -/
def stagedMinors : SortedSet Version := .ofList [
  .of 4 0 0, .of 4 1 0, .of 4 1 1, .of 4 2 0, .of 4 3 0,
  .of 5 0 0, .of 5 1 0, .of 5 1 1, .of 5 2 0, .of 5 3 0]

/-- All five places are taken: a new minor and the one below on the line before, three on the own. -/
theorem unreleased_leaves_stagedMinors :
    ∃ m, build stagedMinors (.of 5 3 0) .standard = .ok m ∧
      m.unreleasedVersions.length = 5 ∧ m.unreleasedVersions.Pairwise Policy.standard.Precedes ∧
      (m.unreleasedVersions.Pairwise fun v w => (v.major, v.minor) ≠ (w.major, w.minor)) := by
  refine ⟨_, rfl, rfl, ?_⟩
  have h : build stagedMinors (.of 5 3 0) .standard = .ok _ := rfl
  obtain ⟨hpairwise, -, -, hminors, -⟩ := unreleased_leaves h
  exact ⟨hpairwise, hminors⟩

end Matrix

end ReleaseMatrix
