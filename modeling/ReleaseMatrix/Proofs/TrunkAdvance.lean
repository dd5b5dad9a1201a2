import ReleaseMatrix.Proofs.Compatibility

/-!
# The trunk goes on

When a branch is cut for the current version, the trunk goes on with a new one: the next minor of
the same major, or the first version of a major that follows it. The build for the new current
version has other lines to look at than the one before. Still nothing is lacking in it, and the
version that was the current one is among its unreleased versions.

A next minor is alone on top of its line, so the cascade goes on to the minor below, where the old
current version is the leaf. The first version of a major is alone on its line, so the cascade runs
on the previous major, where the old current version is the newest.

## What is proved

* `RetainedLines.inDevelopment_nextMinor`, `RetainedLines.inDevelopment_nextMajor`: the old current
  version is in development for the new one.
* `RetainedLines.not_lacks_nextMinor`, `RetainedLines.not_lacks_nextMajor`: no line is lacking for
  the new one.
-/

namespace ReleaseMatrix

/-! ### New current versions -/

namespace Version

/-- The next minor of a version, if its number fits. -/
def nextMinor (v : Version) (hm : v.minor + 1 < 0x100000000) : Version where
  major := v.major
  minor := v.minor + 1
  revision := 0
  major_lt := v.major_lt
  minor_lt := hm

variable {v : Version} {hm : v.minor + 1 < 0x100000000}

@[simp] theorem nextMinor_major : (v.nextMinor hm).major = v.major := rfl

@[simp] theorem nextMinor_minor : (v.nextMinor hm).minor = v.minor + 1 := rfl

@[simp] theorem nextMinor_revision : (v.nextMinor hm).revision = 0 := rfl

theorem lt_nextMinor : v < v.nextMinor hm := by
  rw [lt_def]
  exact .inr ⟨rfl, .inl (Nat.lt_succ_self _)⟩

theorem nextMinor_ne : v.nextMinor hm ≠ v := (Std.ne_of_lt lt_nextMinor).symm

/-- Nothing on a major comes before its first version. -/
theorem le_of_first {w : Version} (hmajor : v.major = w.major) (hminor : v.minor = 0)
    (hrevision : v.revision = 0) : v ≤ w := by
  rw [le_iff_not_lt, lt_def]
  omega

end Version

/-- The versions with which the trunk can go on. -/
inductive TrunkAdvance (declared : SortedSet Version) (current : Version) (p : Policy) :
    Version → Prop
  /-- The next minor of the current version. -/
  | minor (hm : current.minor + 1 < 0x100000000) :
      TrunkAdvance declared current p (current.nextMinor hm)
  /-- The first version of a major that follows the current one and keeps it, if no declared version
  is newer. -/
  | major {next : Version} (hminor : next.minor = 0) (hrevision : next.revision = 0)
      (hprevious : p.previousMajor? next.major = some current.major)
      (hretains : p.Retains next.major current.major)
      (hnewest : p.newest? (declared.insert next).toList = some next) :
      TrunkAdvance declared current p next

theorem TrunkAdvance.revision_eq_zero {declared : SortedSet Version} {current next : Version}
    {p : Policy} (h : TrunkAdvance declared current p next) : next.revision = 0 := by
  cases h with
  | minor => rfl
  | major _ hrevision => exact hrevision

namespace RetainedLines

variable {declared : SortedSet Version} {current next v : Version} {p : Policy} {major : Nat}

/-- The kept lines once the trunk has gone on. -/
def advanced (declared : SortedSet Version) (next : Version) (p : Policy) : RetainedLines :=
  of (declared.insert next) next p

theorem mem_line_advanced : v ∈ (advanced declared next p).line major ↔
    (v = next ∨ v ∈ declared) ∧ p.Retains next.major major ∧ v.major = major := by
  rw [advanced, mem_line_of, Policy.Keeps, SortedSet.mem_insert]
  constructor
  · rintro ⟨⟨hv, hretains⟩, rfl⟩
    exact ⟨hv, hretains, rfl⟩
  · rintro ⟨hv, hretains, rfl⟩
    exact ⟨⟨hv, hretains⟩, rfl⟩

theorem ordered_advanced : (advanced declared next p).Ordered := ordered_of

/-! ### The next minor -/

section

variable {hm : current.minor + 1 < 0x100000000}

/-- The next minor of the newest version is newer than everything that is declared. -/
theorem isLatest_nextMinor (hnewest : IsLatest p.Precedes declared.toList current) :
    IsLatest p.Precedes (declared.insert (current.nextMinor hm)).toList (current.nextMinor hm) := by
  refine ⟨SortedSet.mem_insert.2 (.inl rfl), ?_⟩
  intro w hw hne
  have hw : w ∈ declared := (SortedSet.mem_insert.1 hw).resolve_left hne
  have hmajor : current.major = (current.nextMinor hm).major := rfl
  have hstep : p.Precedes current (current.nextMinor hm) :=
    (Policy.precedes_iff_lt hmajor).2 Version.lt_nextMinor
  by_cases hwc : w = current
  · exact hwc ▸ hstep
  · exact (hnewest.2 w hw hwc).trans hstep

/-- The lines are those of before, with the next minor at the end of its own. -/
theorem mem_line_nextMinor (hretains : p.Retains current.major current.major) :
    v ∈ (advanced declared (current.nextMinor hm) p).line major ↔
      v ∈ (of declared current p).line major ∨
        v = current.nextMinor hm ∧ major = current.major := by
  rw [mem_line_advanced, mem_line_of, Policy.Keeps, Version.nextMinor_major]
  constructor
  · rintro ⟨rfl | hv, hkept, rfl⟩
    · exact .inr ⟨rfl, rfl⟩
    · exact .inl ⟨⟨hv, hkept⟩, rfl⟩
  · rintro (⟨⟨hv, hkept⟩, rfl⟩ | ⟨rfl, rfl⟩)
    · exact ⟨.inr hv, hkept, rfl⟩
    · exact ⟨.inl rfl, hretains, rfl⟩

theorem nextMinor_mem_line (hretains : p.Retains current.major current.major) :
    current.nextMinor hm ∈ (advanced declared (current.nextMinor hm) p).line current.major :=
  (mem_line_nextMinor hretains).2 (.inr ⟨rfl, rfl⟩)

/-- The next minor has nothing but its first version. -/
theorem isAlone_nextMinor (hnewest : IsLatest p.Precedes declared.toList current)
    (hretains : p.Retains current.major current.major) :
    IsAlone ((advanced declared (current.nextMinor hm) p).line current.major)
      (current.minor + 1) := by
  refine ⟨current.nextMinor hm, ⟨nextMinor_mem_line hretains, rfl⟩, ?_⟩
  rintro w ⟨hw, hminor⟩
  refine ((mem_line_nextMinor hretains).1 hw).elim (fun hw => ?_) And.left
  have hle : w.minor ≤ current.minor :=
    (ordered_of _).minor_le (isLatest_line hnewest hretains) hw
  omega

theorem isLeaf_nextMinor (hnewest : IsLatest p.Precedes declared.toList current)
    (hretains : p.Retains current.major current.major) :
    IsLeaf ((advanced declared (current.nextMinor hm) p).line current.major) current := by
  have hleaf : IsLeaf ((of declared current p).line current.major) current :=
    (isLatest_line hnewest hretains).isLeaf
  refine ⟨(mem_line_nextMinor hretains).2 (.inl hleaf.1), ?_⟩
  intro w hw hminor
  rcases (mem_line_nextMinor hretains).1 hw with hw | ⟨rfl, -⟩
  · exact hleaf.2 w hw hminor
  · rw [Version.nextMinor_minor] at hminor
    omega

/-- The old and the new current version are on one line. -/
theorem length_line_nextMinor (hnewest : IsLatest p.Precedes declared.toList current)
    (hretains : p.Retains current.major current.major) :
    ((advanced declared (current.nextMinor hm) p).line current.major).length ≠ 1 := by
  rw [Ne, length_eq_one_iff_existsUnique (ordered_advanced _).nodup]
  intro hsingle
  have hcurrent : current ∈ (advanced declared (current.nextMinor hm) p).line current.major :=
    (isLeaf_nextMinor hnewest hretains).1
  exact Version.nextMinor_ne (hsingle.unique (nextMinor_mem_line hretains) hcurrent)

/-- The old current version is the leaf below a minor that is alone. -/
theorem inDevelopment_nextMinor (hnewest : IsLatest p.Precedes declared.toList current)
    (hretains : p.Retains current.major current.major)
    (hboot : current.nextMinor hm ≠ p.bootstrapVersion) :
    (advanced declared (current.nextMinor hm) p).InDevelopment (current.nextMinor hm) p current := by
  have htip : IsLatest (· < ·) ((advanced declared (current.nextMinor hm) p).line current.major)
      (current.nextMinor hm) := isLatest_line (isLatest_nextMinor hnewest) hretains
  refine .released hboot ?_
  rw [releasedLine, Version.nextMinor_major, if_neg (length_line_nextMinor hnewest hretains)]
  exact .below htip (isAlone_nextMinor hnewest hretains) (isLeaf_nextMinor hnewest hretains) rfl

/-- A line that is lacking for the next minor was lacking before. -/
theorem not_lacks_nextMinor (hnewest : IsLatest p.Precedes declared.toList current)
    (hretains : p.Retains current.major current.major)
    (hlacks : ¬ (of declared current p).Lacks current p major) :
    ¬ (advanced declared (current.nextMinor hm) p).Lacks (current.nextMinor hm) p major := by
  rintro ⟨-, hprevious, hmissing, hneeded⟩
  -- the own line has two versions, so the line is needed because of the major of the first release
  have hfollows : current.major ≠ p.bootstrapVersion.major :=
    hneeded.resolve_right (length_line_nextMinor hnewest hretains)
  refine hlacks ⟨fun hboot => hfollows (congrArg _ hboot), hprevious, ?_, .inl hfollows⟩
  rw [List.eq_nil_iff_forall_not_mem] at *
  exact fun w hw => hmissing w ((mem_line_nextMinor hretains).2 (.inl hw))

end

/-! ### The first version of a major that follows -/

/-- The new current version has a line of its own. -/
theorem length_line_nextMajor (hnewest : IsLatest p.Precedes (declared.insert next).toList next)
    (hretained : 0 < p.retainedMajors) (hminor : next.minor = 0) (hrevision : next.revision = 0) :
    ((advanced declared next p).line next.major).length = 1 := by
  have hretains : p.Retains next.major next.major := p.retains_self hretained next.major
  rw [length_eq_one_iff_existsUnique (ordered_advanced _).nodup]
  refine ⟨next, mem_line_advanced.2 ⟨.inl rfl, hretains, rfl⟩, ?_⟩
  intro w hw
  obtain ⟨hw, -, hmajor⟩ := mem_line_advanced.1 hw
  have hle : w ≤ next := p.le_of_isLatest hnewest (SortedSet.mem_insert.2 hw) hmajor
  have hge : next ≤ w := Version.le_of_first hmajor.symm hminor hrevision
  exact Std.le_antisymm hle hge

/-- The old current version is the newest of its line, unless it is the new one. -/
theorem isLatest_line_nextMajor (hnewest : IsLatest p.Precedes declared.toList current)
    (hretains : p.Retains next.major current.major) (hne : next.major ≠ current.major) :
    IsLatest (· < ·) ((advanced declared next p).line current.major) current := by
  refine ⟨mem_line_advanced.2 ⟨.inr hnewest.1, hretains, rfl⟩, ?_⟩
  intro w hw hwne
  obtain ⟨hw, -, hmajor⟩ := mem_line_advanced.1 hw
  have hw : w ∈ declared := hw.resolve_left fun heq => hne (heq ▸ hmajor)
  exact (Policy.precedes_iff_lt hmajor).1 (hnewest.2 w hw hwne)

/-- The old current version is the newest of the previous major, or the new one itself. -/
theorem inDevelopment_nextMajor (hnewest : IsLatest p.Precedes declared.toList current)
    (hnewest' : IsLatest p.Precedes (declared.insert next).toList next)
    (hretained : 0 < p.retainedMajors) (hminor : next.minor = 0) (hrevision : next.revision = 0)
    (hprevious : p.previousMajor? next.major = some current.major)
    (hretains : p.Retains next.major current.major) (hboot : next ≠ p.bootstrapVersion) :
    (advanced declared next p).InDevelopment next p current := by
  by_cases hmajor : next.major = current.major
  · -- a major that follows itself: the trunk has not moved
    have hle : current ≤ next :=
      p.le_of_isLatest hnewest' (SortedSet.mem_insert.2 (.inr hnewest.1)) hmajor.symm
    have heq : current = next :=
      Std.le_antisymm hle (Version.le_of_first hmajor hminor hrevision)
    rw [heq]
    exact .current
  · refine .released hboot (.tip ?_)
    rw [releasedLine, if_pos (length_line_nextMajor hnewest' hretained hminor hrevision), hprevious]
    exact isLatest_line_nextMajor hnewest hretains hmajor

/-- Only the previous major could be lacking, and the old current version is on it. -/
theorem not_lacks_nextMajor (hcurrent : current ∈ declared)
    (hprevious : p.previousMajor? next.major = some current.major)
    (hretains : p.Retains next.major current.major) :
    ¬ (advanced declared next p).Lacks next p major := by
  rintro ⟨-, hprevious', hmissing, -⟩
  rw [hprevious, Option.some.injEq] at hprevious'
  have hmem : current ∈ (advanced declared next p).line major :=
    mem_line_advanced.2 ⟨.inr hcurrent, hprevious' ▸ hretains, hprevious'⟩
  rw [hmissing] at hmem
  exact absurd hmem List.not_mem_nil

end RetainedLines

/-! ### The matrix -/

namespace Matrix

variable {declared : SortedSet Version} {current next : Version} {p : Policy} {m : Matrix}

/-- While the current version is a new minor the majors are not counted. -/
theorem not_miscounted_of_revision (h : current.revision = 0) : ¬ Miscounted declared current p :=
  fun hcount => hcount.2.1 h

/-- The new current version is newer than everything that is declared. -/
theorem isLatest_trunkAdvance (hnewest : IsLatest p.Precedes declared.toList current)
    (h : TrunkAdvance declared current p next) :
    IsLatest p.Precedes (declared.insert next).toList next := by
  cases h with
  | minor => exact RetainedLines.isLatest_nextMinor hnewest
  | major _ _ _ _ hnext => exact p.newest?_eq_some_iff.1 hnext

/-- **The trunk goes on.** If a policy keeps any line, and the trunk goes on to a new current version
that is not the first release, then the matrix is made for that version, and the old current version
is unreleased in it. -/
theorem build_insert_trunkAdvance (h : build declared current p = .ok m)
    (hretained : 0 < p.retainedMajors) (hadvance : TrunkAdvance declared current p next)
    (hboot : next ≠ p.bootstrapVersion) :
    ∃ m', build (declared.insert next) next p = .ok m' ∧ current ∈ m'.unreleasedVersions := by
  have hbuilt := build_eq_ok_iff.1 h
  have hnewest' := isLatest_trunkAdvance hbuilt.newest hadvance
  have hretains : p.Retains current.major current.major := p.retains_self hretained _
  have hlacks : ∀ major, ¬ Lacks (declared.insert next) next p major := by
    intro major
    rw [lacks_iff]
    cases hadvance with
    | minor =>
      exact RetainedLines.not_lacks_nextMinor hbuilt.newest hretains
        fun hlacks => hbuilt.not_lacks (lacks_iff.2 hlacks)
    | major _ _ hprevious hkeeps =>
      exact RetainedLines.not_lacks_nextMajor hbuilt.newest.1 hprevious hkeeps
  obtain ⟨m', hm'⟩ :=
    exists_build hnewest' (not_miscounted_of_revision hadvance.revision_eq_zero) hlacks
  refine ⟨m', hm', (build_eq_ok_iff.1 hm').mem_unreleasedVersions_iff.2 ?_⟩
  cases hadvance with
  | minor => exact RetainedLines.inDevelopment_nextMinor hbuilt.newest hretains hboot
  | major hminor hrevision hprevious hkeeps =>
    exact RetainedLines.inDevelopment_nextMajor hbuilt.newest hnewest' hretained hminor hrevision
      hprevious hkeeps hboot

/-- From 2.1.0 the trunk can go on to 2.2.0, where 2.1.0 is staged above 2.0.1, and to 3.0.0, where
2.1.0 is the newest version of the previous major. -/
theorem build_insert_trunkAdvance_continuedLines :
    ∃ m m', build (continuedLines.insert (.of 2 2 0)) (.of 2 2 0) .standard = .ok m ∧
      build (continuedLines.insert (.of 3 0 0)) (.of 3 0 0) .standard = .ok m' ∧
      m.unreleasedVersions = [.of 1 3 1, .of 2 0 1, .of 2 1 0, .of 2 2 0] ∧
      m'.unreleasedVersions = [.of 2 0 1, .of 2 1 0, .of 3 0 0] ∧
      .of 2 1 0 ∈ m.unreleasedVersions ∧ .of 2 1 0 ∈ m'.unreleasedVersions := by
  have h : build continuedLines (.of 2 1 0) .standard = .ok _ := rfl
  have hminor : TrunkAdvance continuedLines (.of 2 1 0) .standard (.of 2 2 0) :=
    .minor (by decide)
  have hmajor : TrunkAdvance continuedLines (.of 2 1 0) .standard (.of 3 0 0) :=
    .major rfl rfl rfl (by decide) rfl
  obtain ⟨m, hm, hmem⟩ := build_insert_trunkAdvance h (by decide) hminor (by decide)
  obtain ⟨m', hm', hmem'⟩ := build_insert_trunkAdvance h (by decide) hmajor (by decide)
  have hversions := congrArg (Except.map unreleasedVersions) hm
  have hversions' := congrArg (Except.map unreleasedVersions) hm'
  exact ⟨m, m', hm, hm', (Except.ok.inj hversions).symm, (Except.ok.inj hversions').symm, hmem,
    hmem'⟩

end Matrix

end ReleaseMatrix
