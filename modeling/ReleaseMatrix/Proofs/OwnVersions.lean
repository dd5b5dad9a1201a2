import ReleaseMatrix.Proofs.Released
import ReleaseMatrix.Proofs.Retention

/-!
# Counting the own versions

A version is an own one if no predecessor project published its line. The own versions that are kept
are the released ones and the unreleased ones, unless a version on a legacy line is unreleased.
Under the standard policy that happens to a current version on line 1 or 2 in one case only: line 1
has been begun with another version than the first release and has no second version yet. The minors
of the line before it are followed then, and that line is the last one of the predecessor.
-/

namespace ReleaseMatrix

variable {declared : SortedSet Version} {current v : Version} {p : Policy} {m : Matrix}

/-- The kept versions that are on no legacy line, ascending. -/
def Policy.keptOwn (p : Policy) (declared : SortedSet Version) (current : Version) : List Version :=
  declared.toList.filter fun v => p.Retains current.major v.major ∧ ¬ p.isLegacy v.major

theorem Policy.mem_keptOwn :
    v ∈ p.keptOwn declared current ↔ p.Keeps declared current v ∧ ¬ p.isLegacy v.major := by
  rw [keptOwn, List.mem_filter, decide_eq_true_eq, Keeps, and_assoc, SortedSet.mem_def]

theorem Policy.nodup_keptOwn : (p.keptOwn declared current).Nodup :=
  (nodup_of_pairwise declared.ascending).filter _

namespace Matrix

/-! ### Released and unreleased own versions -/

theorem Built.keeps_of_mem_unreleasedVersions (h : Built declared current p m)
    (hretains : p.Retains current.major current.major) (hv : v ∈ m.unreleasedVersions) :
    p.Keeps declared current v := by
  by_cases hne : v = current
  · subst hne
    exact ⟨h.newest.1, hretains⟩
  · have hleaf := (h.mem_unreleasedVersions_iff.1 hv).isLeaf RetainedLines.ordered_of hne
    exact (RetainedLines.mem_line_of.1 hleaf.1).1

/-- The kept own versions are the released ones and the unreleased own ones. -/
theorem Built.released_append_perm (h : Built declared current p m)
    (hretains : p.Retains current.major current.major) :
    (m.released ++ m.unreleasedVersions.filter fun v => ! p.isLegacy v.major).Perm
      (p.keptOwn declared current) := by
  have hreleased : m.released.Nodup := nodup_of_pairwise h.pairwise_released
  have hunreleased : m.unreleasedVersions.Nodup := h.nodup_unreleasedVersions
  refine (List.perm_ext_iff_of_nodup ?_ Policy.nodup_keptOwn).2 fun v => ?_
  · refine List.nodup_append.2 ⟨hreleased, hunreleased.filter _, ?_⟩
    rintro v hv _ hv' rfl
    exact (h.mem_released.1 hv).2.1 (List.mem_filter.1 hv').1
  · rw [List.mem_append, h.mem_released, List.mem_filter, Policy.mem_keptOwn, Bool.not_eq_true',
      Bool.not_eq_true]
    constructor
    · rintro (⟨hkeeps, -, hown⟩ | ⟨hv, hown⟩)
      · exact ⟨hkeeps, hown⟩
      · exact ⟨h.keeps_of_mem_unreleasedVersions hretains hv, hown⟩
    · rintro ⟨hkeeps, hown⟩
      by_cases hv : v ∈ m.unreleasedVersions
      · exact .inr ⟨hv, hown⟩
      · exact .inl ⟨hkeeps, hv, hown⟩

/-- Released and unreleased versions are as many as the kept own ones and the unreleased ones on
legacy lines. -/
theorem Built.length_released_add (h : Built declared current p m)
    (hretains : p.Retains current.major current.major) :
    m.released.length + m.unreleasedVersions.length = (p.keptOwn declared current).length +
      (m.unreleasedVersions.filter fun v => p.isLegacy v.major).length := by
  have hown := (h.released_append_perm hretains).length_eq
  have hsplit := List.length_eq_length_filter_add (l := m.unreleasedVersions)
    fun v => p.isLegacy v.major
  rw [List.length_append] at hown
  omega

/-- They are as many as the kept own ones exactly if no legacy version is unreleased. -/
theorem Built.length_released_add_eq_iff (h : Built declared current p m)
    (hretains : p.Retains current.major current.major) :
    m.released.length + m.unreleasedVersions.length = (p.keptOwn declared current).length ↔
      ∀ v ∈ m.unreleasedVersions, ¬ p.isLegacy v.major := by
  rw [h.length_released_add hretains, Nat.add_eq_left, List.length_eq_zero_iff,
    List.filter_eq_nil_iff]

end Matrix

/-! ### Unreleased versions on legacy lines -/

/-- A version that is not the first release is the only one on line 1, so that the minors of the
predecessor's last line are followed. -/
def FollowsPredecessor (declared : SortedSet Version) (current : Version) : Prop :=
  current.major = 1 ∧ current ≠ Policy.standard.bootstrapVersion ∧
    ∀ v ∈ declared, v.major = current.major → v = current

namespace RetainedLines

/-- The line of the current version has one version exactly if no other is declared there. -/
theorem length_line_eq_one_iff (hcurrent : current ∈ declared)
    (hretains : p.Retains current.major current.major) :
    ((of declared current p).line current.major).length = 1 ↔
      ∀ v ∈ declared, v.major = current.major → v = current := by
  have hmem : current ∈ (of declared current p).line current.major :=
    mem_line_of.2 ⟨⟨hcurrent, hretains⟩, rfl⟩
  rw [length_eq_one_iff_existsUnique (ordered_of current.major).nodup]
  constructor
  · rintro ⟨w, -, hunique⟩ v hv hmajor
    have hkept : p.Retains current.major v.major := by
      rw [hmajor]
      exact hretains
    have hline := hunique v (mem_line_of.2 ⟨⟨hv, hkept⟩, hmajor⟩)
    exact hline.trans (hunique current hmem).symm
  · intro hone
    refine ⟨current, hmem, fun v hv => ?_⟩
    obtain ⟨⟨hv, -⟩, hmajor⟩ := mem_line_of.1 hv
    exact hone v hv hmajor

/-- From line 1 or 2 a legacy version is in development only if the predecessor is followed. -/
theorem InDevelopment.followsPredecessor
    (hnewest : IsLatest Policy.standard.Precedes declared.toList current)
    (hmajor : current.major = 1 ∨ current.major = 2)
    (h : (of declared current .standard).InDevelopment current .standard v)
    (hlegacy : Policy.standard.isLegacy v.major) : FollowsPredecessor declared current := by
  have hretains := Policy.retains_self (p := .standard) (by decide) current.major
  rw [Policy.standard_isLegacy_iff] at hlegacy
  have hprevious : Policy.standard.previousMajor? current.major = some v.major :=
    (h.major_eq ordered_of).resolve_left (by omega)
  rw [Policy.standard_previousMajor?_eq_some_iff] at hprevious
  have hone : current.major = 1 := by omega
  cases h with
  | current => omega
  | before _ follows => exact absurd hone follows
  | released boot hv =>
    refine ⟨hone, boot, (length_line_eq_one_iff hnewest.1 hretains).1 ?_⟩
    -- otherwise the version would be on line 1 as well
    by_contra hlength
    rw [releasedLine, if_neg hlength] at hv
    have hown := (ordered_of current.major).major_eq v hv.isLeaf.1
    omega

end RetainedLines

namespace Matrix

/-- If the predecessor is followed, the newest version of its last line is unreleased. -/
theorem Built.exists_legacy_of_followsPredecessor (h : Built declared current .standard m)
    (hfollows : FollowsPredecessor declared current) :
    ∃ v ∈ m.unreleasedVersions, Policy.standard.isLegacy v.major := by
  obtain ⟨hmajor, hboot, hone⟩ := hfollows
  have hretains := Policy.retains_self (p := .standard) (by decide) current.major
  have hlength := (RetainedLines.length_line_eq_one_iff h.newest.1 hretains).2 hone
  have hprevious : Policy.standard.previousMajor? current.major = some 7 := hmajor ▸ rfl
  have hne : (RetainedLines.of declared current .standard).line 7 ≠ [] := fun hmissing =>
    h.not_lacks (lacks_iff.2 ⟨hboot, hprevious, hmissing, .inr hlength⟩)
  obtain ⟨t, ht⟩ := (RetainedLines.ordered_of 7).exists_isLatest hne
  refine ⟨t, h.mem_unreleasedVersions_iff.2 (.released hboot (.tip ?_)), ?_⟩
  · rw [RetainedLines.releasedLine, if_pos hlength, hprevious]
    exact ht
  · rw [(RetainedLines.ordered_of 7).major_eq t ht.1]
    rfl

/-- **Counting the own versions.** Under the standard policy, for a current version on line 1 or 2,
no unreleased version is on a legacy line, and the released and the unreleased versions are as many
as the kept versions outside the legacy lines, unless the current version follows the predecessor;
then neither is so. -/
theorem unreleased_own_iff (h : build declared current .standard = .ok m)
    (hmajor : current.major = 1 ∨ current.major = 2) :
    ((∀ v ∈ m.unreleasedVersions, ¬ Policy.standard.isLegacy v.major) ↔
      ¬ FollowsPredecessor declared current) ∧
    (m.released.length + m.unreleasedVersions.length =
        (Policy.standard.keptOwn declared current).length ↔
      ¬ FollowsPredecessor declared current) := by
  have hbuilt := build_eq_ok_iff.1 h
  have hown : (∀ v ∈ m.unreleasedVersions, ¬ Policy.standard.isLegacy v.major) ↔
      ¬ FollowsPredecessor declared current := by
    constructor
    · intro hown hfollows
      obtain ⟨v, hv, hlegacy⟩ := hbuilt.exists_legacy_of_followsPredecessor hfollows
      exact hown v hv hlegacy
    · intro hnot v hv hlegacy
      exact hnot ((hbuilt.mem_unreleasedVersions_iff.1 hv).followsPredecessor hbuilt.newest hmajor
        hlegacy)
  refine ⟨hown, ?_⟩
  rw [hbuilt.length_released_add_eq_iff (Policy.retains_self (by decide) _), hown]

/-- Line 1 above the last two lines of the predecessor. -/
def restartedLine : SortedSet Version := .ofList
  [.of 1 0 0, .of 1 0 1, .of 1 1 0, .of 6 8 0, .of 6 8 1, .of 7 9 0, .of 7 10 0]

/-- With a first release the minors of line 1 are followed. -/
theorem unreleased_own_iff_restartedLine :
    ∃ m, build restartedLine (.of 1 1 0) .standard = .ok m ∧ m.released = [.of 1 0 0] ∧
      (∀ v ∈ m.unreleasedVersions, ¬ Policy.standard.isLegacy v.major) ∧
      m.released.length + m.unreleasedVersions.length =
        (Policy.standard.keptOwn restartedLine (.of 1 1 0)).length := by
  have h : build restartedLine (.of 1 1 0) .standard = .ok _ := rfl
  have hnot : ¬ FollowsPredecessor restartedLine (.of 1 1 0) := fun hfollows =>
    absurd (hfollows.2.2 (.of 1 0 0) (by decide) rfl) (by decide)
  obtain ⟨hown, hcount⟩ := unreleased_own_iff h (.inl rfl)
  exact ⟨_, h, rfl, hown.2 hnot, hcount.2 hnot⟩

/-- Line 1 begun with another version than the first release. -/
def loneRestart : SortedSet Version := .ofList [.of 1 1 0, .of 7 10 2]

/-- Then the newest version of line 7 is unreleased, and there is one version too many. -/
theorem unreleased_legacy_loneRestart :
    ∃ m, build loneRestart (.of 1 1 0) .standard = .ok m ∧
      m.unreleasedVersions = [.of 7 10 2, .of 1 1 0] ∧ Policy.standard.isLegacy 7 ∧
      m.released.length + m.unreleasedVersions.length ≠
        (Policy.standard.keptOwn loneRestart (.of 1 1 0)).length :=
  ⟨_, rfl, rfl, rfl, by decide⟩

end Matrix

end ReleaseMatrix
