import Mathlib.Order.Bounds.Basic
import ReleaseMatrix.Proofs.Development

/-!
# Which versions are unreleased, by what is declared

The unreleased versions are computed from two groupings, by major and by minor, through a cascade of
look-ups. Here they are said of the sets of declared versions that the policy keeps, with greatest
elements in place of look-ups: `Pending` are the versions that are to be listed, and `Outcome` is
what the computation has to end in. The current version is any version, also one that is not
declared or not the newest.

## What is proved

* `pending_iff_inDevelopment`: behind the first release, what is to be listed is what is in
  development on the kept lines.
* `unreleased_eq_iff_outcome`: the computation ends in a result exactly if it is the outcome.
-/

namespace ReleaseMatrix

/-! ### Sets of versions -/

/-- The highest version of one minor in a set of versions. -/
def IsHighest (versions : Set Version) (minor : Nat) (v : Version) : Prop :=
  IsGreatest {w ∈ versions | w.minor = minor} v

/-- A minor of which a set has exactly one version. -/
def HasOne (versions : Set Version) (minor : Nat) : Prop := ∃! v, v ∈ versions ∧ v.minor = minor

/-- The greatest minor of a set of versions. -/
def IsGreatestMinor (versions : Set Version) (minor : Nat) : Prop :=
  IsGreatest (Version.minor '' versions) minor

section

variable {line : List Version} {major minor : Nat} {v : Version}

/-- The greatest member of a list is the one that all others come before. -/
theorem isGreatest_iff_isLatest : IsGreatest {w | w ∈ line} v ↔ IsLatest (· < ·) line v := by
  refine and_congr_right fun _ => ?_
  constructor
  · intro h w hw hne
    exact (Version.le_def.1 (h hw)).resolve_right hne
  · intro h w hw
    by_cases hne : w = v
    · exact Version.le_def.2 (.inr hne)
    · exact Version.le_def.2 (.inl (h w hw hne))

theorem isHighest_iff_isLeaf :
    IsHighest {w | w ∈ line} minor v ↔ IsLeaf line v ∧ v.minor = minor := by
  constructor
  · rintro ⟨⟨hv, rfl⟩, hle⟩
    exact ⟨⟨hv, fun w hw hminor => hle ⟨hw, hminor⟩⟩, rfl⟩
  · rintro ⟨⟨hv, hle⟩, rfl⟩
    exact ⟨⟨hv, rfl⟩, fun w ⟨hw, hminor⟩ => hle w hw hminor⟩

theorem hasOne_iff_isAlone : HasOne {w | w ∈ line} minor ↔ IsAlone line minor := Iff.rfl

/-- The greatest minor of a line is that of its newest version. -/
theorem IsLine.isGreatestMinor_iff (h : IsLine major line) :
    IsGreatestMinor {w | w ∈ line} minor ↔ ∃ t, IsLatest (· < ·) line t ∧ t.minor = minor := by
  constructor
  · rintro ⟨⟨v, hv, rfl⟩, hle⟩
    obtain ⟨t, ht⟩ := h.exists_isLatest (List.ne_nil_of_mem hv)
    exact ⟨t, ht, Nat.le_antisymm (hle ⟨t, ht.1, rfl⟩) (h.minor_le ht hv)⟩
  · rintro ⟨t, ht, rfl⟩
    refine ⟨⟨t, ht.1, rfl⟩, ?_⟩
    rintro _ ⟨v, hv, rfl⟩
    exact h.minor_le ht hv

end

/-! ### The reference -/

section

variable (declared : SortedSet Version) (current : Version) (p : Policy)

/-- The kept versions of a major. -/
def keptOn (major : Nat) : Set Version := {v | p.Keeps declared current v ∧ v.major = major}

/-- The kept versions whose minors are followed: those of the current major, unless it has exactly
one; then those of the previous major, and none if there is no previous major. -/
def followed : Set Version :=
  {v | ((∃! w, w ∈ keptOn declared current p current.major) ∧
      ∃ previous, p.previousMajor? current.major = some previous ∧
        v ∈ keptOn declared current p previous) ∨
    (¬ (∃! w, w ∈ keptOn declared current p current.major) ∧
      v ∈ keptOn declared current p current.major)}

/-- The versions that are unreleased when the current version is not the first release. -/
inductive Pending : Version → Prop where
  /-- The current version. -/
  | current : Pending current
  /-- Behind the major of the first release, the greatest version of the previous major. -/
  | previousTip {previous : Nat} {t : Version} (follows : current.major ≠ p.bootstrapVersion.major)
      (hprevious : p.previousMajor? current.major = some previous)
      (tip : IsGreatest (keptOn declared current p previous) t) : Pending t
  /-- While that one is a new minor, the highest version of the minor below it. -/
  | previousBelow {previous minor : Nat} {t v : Version}
      (follows : current.major ≠ p.bootstrapVersion.major)
      (hprevious : p.previousMajor? current.major = some previous)
      (tip : IsGreatest (keptOn declared current p previous) t) (new : t.revision = 0)
      (hminor : t.minor = minor + 1)
      (hv : IsHighest (keptOn declared current p previous) minor v) : Pending v
  /-- The highest version of the greatest minor that is followed. -/
  | newest {greatest : Nat} {v : Version}
      (hgreatest : IsGreatestMinor (followed declared current p) greatest)
      (hv : IsHighest (followed declared current p) greatest v) : Pending v
  /-- While the greatest minor has exactly one version, the highest version of the minor below. -/
  | below {minor : Nat} {v : Version}
      (hgreatest : IsGreatestMinor (followed declared current p) (minor + 1))
      (one : HasOne (followed declared current p) (minor + 1))
      (hv : IsHighest (followed declared current p) minor v) : Pending v
  /-- While both of these minors have exactly one version, the highest version of the minor two
  below. -/
  | staged {minor : Nat} {v : Version}
      (hgreatest : IsGreatestMinor (followed declared current p) (minor + 2))
      (one : HasOne (followed declared current p) (minor + 2))
      (one' : HasOne (followed declared current p) (minor + 1))
      (hv : IsHighest (followed declared current p) minor v) : Pending v

/-- What the computation of the unreleased versions has to end in. -/
inductive Outcome : Except MatrixError (List Version) → Prop where
  /-- The first release is its only unreleased version. -/
  | bootstrap (boot : current = p.bootstrapVersion) : Outcome (.ok [current])
  /-- The previous major has no kept version, and the current version is on another major than the
  first release or its major has exactly one kept version. -/
  | missing {previous : Nat} (boot : current ≠ p.bootstrapVersion)
      (hprevious : p.previousMajor? current.major = some previous)
      (absent : keptOn declared current p previous = ∅)
      (needed : current.major ≠ p.bootstrapVersion.major ∨
        ∃! v, v ∈ keptOn declared current p current.major) :
      Outcome (.error (.missingLine previous))
  /-- Otherwise the versions that are pending, in release order. -/
  | listed {versions : List Version} (boot : current ≠ p.bootstrapVersion)
      (present : ∀ previous, p.previousMajor? current.major = some previous →
        keptOn declared current p previous = ∅ → current.major = p.bootstrapVersion.major ∧
          ¬ ∃! v, v ∈ keptOn declared current p current.major)
      (ordered : versions.Pairwise p.Precedes)
      (members : ∀ v, v ∈ versions ↔ Pending declared current p v) : Outcome (.ok versions)

end

/-! ### The kept lines as sets -/

variable {declared : SortedSet Version} {current v : Version} {p : Policy} {major minor : Nat}

theorem keptOn_eq : keptOn declared current p major =
    {v | v ∈ (RetainedLines.of declared current p).line major} :=
  Set.ext fun _ => RetainedLines.mem_line_of.symm

theorem keptOn_eq_empty_iff : keptOn declared current p major = ∅ ↔
    (RetainedLines.of declared current p).line major = [] := by
  rw [keptOn_eq, Set.eq_empty_iff_forall_notMem, List.eq_nil_iff_forall_not_mem]
  rfl

/-- A major has exactly one kept version if its line has length one. -/
theorem existsUnique_mem_keptOn : (∃! v, v ∈ keptOn declared current p major) ↔
    ((RetainedLines.of declared current p).line major).length = 1 := by
  rw [length_eq_one_iff_existsUnique (RetainedLines.ordered_of major).nodup, keptOn_eq]
  rfl

/-- What is followed is the line whose minors are followed. -/
theorem followed_eq : followed declared current p =
    {v | v ∈ (RetainedLines.of declared current p).releasedLine current p} := by
  ext v
  rw [followed, Set.mem_ofPred_eq, existsUnique_mem_keptOn, Set.mem_ofPred_eq,
    RetainedLines.releasedLine]
  by_cases hone : ((RetainedLines.of declared current p).line current.major).length = 1
  · cases hprevious : p.previousMajor? current.major <;> simp [hone, keptOn_eq]
  · simp [hone, keptOn_eq]

theorem isGreatest_keptOn : IsGreatest (keptOn declared current p major) v ↔
    IsLatest (· < ·) ((RetainedLines.of declared current p).line major) v := by
  rw [keptOn_eq, isGreatest_iff_isLatest]

theorem isHighest_keptOn : IsHighest (keptOn declared current p major) minor v ↔
    IsLeaf ((RetainedLines.of declared current p).line major) v ∧ v.minor = minor := by
  rw [keptOn_eq, isHighest_iff_isLeaf]

theorem isGreatestMinor_followed : IsGreatestMinor (followed declared current p) minor ↔
    ∃ t, IsLatest (· < ·) ((RetainedLines.of declared current p).releasedLine current p) t ∧
      t.minor = minor := by
  obtain ⟨_, hline⟩ : ∃ major, IsLine major
      ((RetainedLines.of declared current p).releasedLine current p) :=
    RetainedLines.ordered_of.isLine_releasedLine
  rw [followed_eq, hline.isGreatestMinor_iff]

theorem isHighest_followed : IsHighest (followed declared current p) minor v ↔
    IsLeaf ((RetainedLines.of declared current p).releasedLine current p) v ∧ v.minor = minor := by
  rw [followed_eq, isHighest_iff_isLeaf]

theorem hasOne_followed : HasOne (followed declared current p) minor ↔
    IsAlone ((RetainedLines.of declared current p).releasedLine current p) minor := by
  rw [followed_eq, hasOne_iff_isAlone]

/-! ### The outcome -/

/-- What is pending at the minors that are followed is what is developed on their line. -/
theorem developed_of_isGreatestMinor {greatest : Nat}
    (hgreatest : IsGreatestMinor (followed declared current p) greatest)
    (hv : IsHighest (followed declared current p) greatest v) :
    Developed ((RetainedLines.of declared current p).releasedLine current p) v := by
  obtain ⟨t, ht, rfl⟩ := isGreatestMinor_followed.1 hgreatest
  obtain ⟨leaf, hminor⟩ := isHighest_followed.1 hv
  rw [leaf.unique ht.isLeaf hminor]
  exact .tip ht

/-- Behind the first release, the pending versions are those in development on the kept lines. -/
theorem pending_iff_inDevelopment (boot : current ≠ p.bootstrapVersion) :
    Pending declared current p v ↔
      (RetainedLines.of declared current p).InDevelopment current p v := by
  constructor
  · intro h
    cases h with
    | current => exact .current
    | previousTip follows hprevious tip =>
      exact .before boot follows hprevious (.tip (isGreatest_keptOn.1 tip))
    | previousBelow follows hprevious tip new hminor hv =>
      obtain ⟨leaf, rfl⟩ := isHighest_keptOn.1 hv
      exact .before boot follows hprevious
        (.below (isGreatest_keptOn.1 tip) new leaf hminor.symm)
    | newest hgreatest hv => exact .released boot (developed_of_isGreatestMinor hgreatest hv)
    | below hgreatest one hv =>
      obtain ⟨t, ht, hminor⟩ := isGreatestMinor_followed.1 hgreatest
      obtain ⟨leaf, rfl⟩ := isHighest_followed.1 hv
      have alone := hasOne_followed.1 one
      exact .released boot (.below ht (hminor ▸ alone) leaf hminor.symm)
    | staged hgreatest one one' hv =>
      obtain ⟨t, ht, hminor⟩ := isGreatestMinor_followed.1 hgreatest
      obtain ⟨leaf, rfl⟩ := isHighest_followed.1 hv
      have alone := hasOne_followed.1 one
      exact .released boot
        (.staged ht (hminor ▸ alone) (hasOne_followed.1 one') leaf hminor.symm)
  · intro h
    cases h with
    | current => exact .current
    | before _ follows hprevious hv =>
      cases hv with
      | tip ht => exact .previousTip follows hprevious (isGreatest_keptOn.2 ht)
      | below ht new leaf hminor =>
        exact .previousBelow follows hprevious (isGreatest_keptOn.2 ht) new hminor.symm
          (isHighest_keptOn.2 ⟨leaf, rfl⟩)
    | released _ hv =>
      have hhighest : IsHighest (followed declared current p) v.minor v :=
        isHighest_followed.2 ⟨hv.isLeaf, rfl⟩
      cases hv with
      | tip ht => exact .newest (isGreatestMinor_followed.2 ⟨v, ht, rfl⟩) hhighest
      | @below t _ ht alone _ hminor =>
        exact .below (isGreatestMinor_followed.2 ⟨t, ht, hminor.symm⟩)
          (hasOne_followed.2 (hminor ▸ alone)) hhighest
      | @staged t _ ht alone alone' _ hminor =>
        exact .staged (isGreatestMinor_followed.2 ⟨t, ht, hminor.symm⟩)
          (hasOne_followed.2 (hminor ▸ alone)) (hasOne_followed.2 alone') hhighest

/-- The line that is lacking, by what is declared. -/
theorem lacks_iff_keptOn : (RetainedLines.of declared current p).Lacks current p major ↔
    current ≠ p.bootstrapVersion ∧ p.previousMajor? current.major = some major ∧
      keptOn declared current p major = ∅ ∧
      (current.major ≠ p.bootstrapVersion.major ∨
        ∃! v, v ∈ keptOn declared current p current.major) := by
  rw [RetainedLines.Lacks, keptOn_eq_empty_iff, existsUnique_mem_keptOn]

/-- The computation ends in its outcome. -/
theorem outcome_unreleased : Outcome declared current p
    ((RetainedLines.of declared current p).unreleased current p) := by
  by_cases boot : current = p.bootstrapVersion
  · rw [RetainedLines.unreleased, if_pos boot]
    exact .bootstrap boot
  · by_cases hlacks : ∃ major, (RetainedLines.of declared current p).Lacks current p major
    · obtain ⟨major, hmajor⟩ := hlacks
      obtain ⟨-, hprevious, absent, needed⟩ := lacks_iff_keptOn.1 hmajor
      rw [RetainedLines.unreleased_eq_error hmajor]
      exact .missing boot hprevious absent needed
    · obtain ⟨versions, hversions, ordered, members⟩ :=
        RetainedLines.ordered_of.exists_unreleased (not_exists.1 hlacks)
      rw [hversions]
      refine .listed boot ?_ ordered fun v =>
        (members v).trans (pending_iff_inDevelopment boot).symm
      intro previous hprevious absent
      by_contra hneeded
      exact hlacks ⟨previous, lacks_iff_keptOn.2 ⟨boot, hprevious, absent, by tauto⟩⟩

/-- There is one outcome. -/
theorem Outcome.unique {result result' : Except MatrixError (List Version)}
    (h : Outcome declared current p result) (h' : Outcome declared current p result') :
    result = result' := by
  cases h with
  | bootstrap boot =>
    cases h' with
    | bootstrap => rfl
    | missing boot' => exact absurd boot boot'
    | listed boot' => exact absurd boot boot'
  | missing boot hprevious absent needed =>
    cases h' with
    | bootstrap boot' => exact absurd boot' boot
    | missing _ hprevious' => rw [Option.some.inj (hprevious.symm.trans hprevious')]
    | listed _ present' =>
      obtain ⟨hsame, hnot⟩ := present' _ hprevious absent
      exact absurd needed (not_or.2 ⟨not_not.2 hsame, hnot⟩)
  | listed boot present ordered members =>
    cases h' with
    | bootstrap boot' => exact absurd boot' boot
    | missing _ hprevious' absent' needed' =>
      obtain ⟨hsame, hnot⟩ := present _ hprevious' absent'
      exact absurd needed' (not_or.2 ⟨not_not.2 hsame, hnot⟩)
    | listed _ _ ordered' members' =>
      rw [eq_of_pairwise_of_mem_iff ordered ordered' fun v => (members v).trans (members' v).symm]

/-- **The unreleased versions are those of the reference**: for all declared versions, every policy
and any version taken as the current one, the computation ends in a result exactly if that is the
outcome: the first release alone, the missing line, or the pending versions in release order. -/
theorem unreleased_eq_iff_outcome (declared : SortedSet Version) (current : Version) (p : Policy)
    (result : Except MatrixError (List Version)) :
    (RetainedLines.of declared current p).unreleased current p = result ↔
      Outcome declared current p result := by
  constructor
  · rintro rfl
    exact outcome_unreleased
  · intro h
    exact outcome_unreleased.unique h

/-- The current version need not be declared: behind 4.0.0 and 4.1.0 it is 5.0.1 here. -/
example : (RetainedLines.of (.ofList [.of 4 0 0, .of 4 1 0]) (.of 5 0 1) .standard).unreleased
    (.of 5 0 1) .standard = .ok [.of 4 0 0, .of 4 1 0, .of 5 0 1] := by
  rfl

end ReleaseMatrix
