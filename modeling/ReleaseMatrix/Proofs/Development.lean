import ReleaseMatrix.Proofs.Lines
import ReleaseMatrix.Unreleased

/-!
# The versions in development

The unreleased versions are computed as a list, sorted and without repeats. This module says which
they are: `InDevelopment` lists the ways in which a version is in development, in terms of the
newest version of a line, of the newest versions of its minors (its leaves), and of the minors that
have a single version (that are alone).

## What is proved

* `Ordered.unreleased_eq_error_iff`: the computation fails exactly if a line is lacking, that is
  needed and empty, and the error names that line.
* `Ordered.unreleased_eq_ok_iff`: otherwise its result is the list of the versions in development in
  release order.
-/

namespace ReleaseMatrix

/-! ### In development on one line -/

/-- The versions in development at the newest minors of a line. -/
inductive Developed (line : List Version) : Version → Prop where
  /-- The newest version of the line. -/
  | tip {t : Version} (ht : IsLatest (· < ·) line t) : Developed line t
  /-- The leaf of the minor below, while the newest minor is alone. -/
  | below {t v : Version} (ht : IsLatest (· < ·) line t) (alone : IsAlone line t.minor)
      (leaf : IsLeaf line v) (hv : v.minor + 1 = t.minor) : Developed line v
  /-- The leaf of the minor two below, while both minors above it are alone. -/
  | staged {t v : Version} (ht : IsLatest (· < ·) line t) (alone : IsAlone line t.minor)
      (alone' : IsAlone line (v.minor + 1)) (leaf : IsLeaf line v) (hv : v.minor + 2 = t.minor) :
      Developed line v

/-- The versions in development on the line of the previous major. -/
inductive DevelopedBefore (line : List Version) : Version → Prop where
  /-- The newest version of the line. -/
  | tip {t : Version} (ht : IsLatest (· < ·) line t) : DevelopedBefore line t
  /-- The leaf of the minor below, while the newest version is a new minor. -/
  | below {t v : Version} (ht : IsLatest (· < ·) line t) (new : t.revision = 0)
      (leaf : IsLeaf line v) (hv : v.minor + 1 = t.minor) : DevelopedBefore line v

theorem Developed.isLeaf {line : List Version} {v : Version} (h : Developed line v) :
    IsLeaf line v := by
  cases h with
  | tip ht => exact ht.isLeaf
  | below _ _ leaf _ => exact leaf
  | staged _ _ _ leaf _ => exact leaf

theorem DevelopedBefore.isLeaf {line : List Version} {v : Version} (h : DevelopedBefore line v) :
    IsLeaf line v := by
  cases h with
  | tip ht => exact ht.isLeaf
  | below _ _ leaf _ => exact leaf

/-- The steps of the cascade, from the greatest minor down. -/
theorem MinorLines.mem_developed_iff {lines : MinorLines} {v : Version} :
    v ∈ lines.developed ↔ ∃ greatest, lines.greatestMinor? = some greatest ∧
      (lines.newest? greatest = some v ∨ lines.IsSingle greatest ∧
        ((∃ below, greatest = below + 1 ∧ lines.newest? below = some v) ∨
          ∃ staged, greatest = staged + 2 ∧ lines.IsSingle (staged + 1) ∧
            lines.newest? staged = some v)) := by
  rw [developed]
  cases lines.greatestMinor? with
  | none => simp
  | some greatest =>
    simp only [List.mem_append, Option.mem_toList, Option.some.injEq, exists_eq_left']
    refine or_congr_right ?_
    by_cases hsingle : lines.IsSingle greatest
    · rw [if_pos hsingle]
      cases greatest with
      | zero => simp
      | succ below =>
        by_cases hbelow : lines.IsSingle below
        · cases below with
          | zero => simp [hsingle]
          | succ staged => simp [hsingle, hbelow]
        · cases below with
          | zero => simp [hsingle]
          | succ staged => simp [hsingle, hbelow]
    · simp [hsingle]

/-- The greatest minor of a line is that of its newest version. -/
theorem IsLine.greatestMinor?_eq_some_iff {major minor : Nat} {line : List Version}
    (h : IsLine major line) : (MinorLines.of line).greatestMinor? = some minor ↔
      ∃ t, IsLatest (· < ·) line t ∧ t.minor = minor := by
  rw [MinorLines.greatestMinor?_of]
  constructor
  · rintro ⟨⟨v, hv, rfl⟩, hle⟩
    obtain ⟨t, ht⟩ := h.exists_isLatest (List.ne_nil_of_mem hv)
    exact ⟨t, ht, Nat.le_antisymm (hle t ht.1) (h.minor_le ht hv)⟩
  · rintro ⟨t, ht, rfl⟩
    exact ⟨⟨t, ht.1, rfl⟩, fun v hv => h.minor_le ht hv⟩

/-- The cascade gives the versions in development on the line. -/
theorem IsLine.mem_developed {major : Nat} {line : List Version} (h : IsLine major line)
    {v : Version} : v ∈ (MinorLines.of line).developed ↔ Developed line v := by
  rw [MinorLines.mem_developed_iff]
  simp only [h.greatestMinor?_eq_some_iff, MinorLines.newest?_of, MinorLines.isSingle_of h.nodup]
  constructor
  · rintro ⟨_, ⟨t, ht, rfl⟩, ⟨leaf, hminor⟩ | ⟨alone, below | staged⟩⟩
    · rw [leaf.unique ht.isLeaf hminor]
      exact .tip ht
    · obtain ⟨_, hbelow, leaf, rfl⟩ := below
      exact .below ht alone leaf hbelow.symm
    · obtain ⟨_, hstaged, alone', leaf, rfl⟩ := staged
      exact .staged ht alone alone' leaf hstaged.symm
  · intro hv
    cases hv with
    | tip ht => exact ⟨_, ⟨v, ht, rfl⟩, .inl ⟨ht.isLeaf, rfl⟩⟩
    | @below t _ ht alone leaf hv =>
      exact ⟨_, ⟨t, ht, rfl⟩, .inr ⟨alone, .inl ⟨v.minor, hv.symm, leaf, rfl⟩⟩⟩
    | @staged t _ ht alone alone' leaf hv =>
      exact ⟨_, ⟨t, ht, rfl⟩, .inr ⟨alone, .inr ⟨v.minor, hv.symm, alone', leaf, rfl⟩⟩⟩

/-! ### In development in a build -/

namespace RetainedLines

/-- The line whose minors are followed for the current version: its own, or the previous major's
while the current version is alone on its own. -/
def releasedLine (lines : RetainedLines) (current : Version) (p : Policy) : List Version :=
  if (lines.line current.major).length = 1 then
    match p.previousMajor? current.major with
    | none => []
    | some previous => lines.line previous
  else lines.line current.major

/-- A major line that the unreleased versions need and that has no version. -/
def Lacks (lines : RetainedLines) (current : Version) (p : Policy) (major : Nat) : Prop :=
  current ≠ p.bootstrapVersion ∧ p.previousMajor? current.major = some major ∧
    lines.line major = [] ∧
      (current.major ≠ p.bootstrapVersion.major ∨ (lines.line current.major).length = 1)

/-- The ways in which a version is in development. -/
inductive InDevelopment (lines : RetainedLines) (current : Version) (p : Policy) : Version → Prop
  /-- The current version. -/
  | current : InDevelopment lines current p current
  /-- A version on the line of the previous major, behind the major of the first release. -/
  | before {previous : Nat} {v : Version} (boot : current ≠ p.bootstrapVersion)
      (follows : current.major ≠ p.bootstrapVersion.major)
      (hprevious : p.previousMajor? current.major = some previous)
      (hv : DevelopedBefore (lines.line previous) v) : InDevelopment lines current p v
  /-- A version at the newest minors of the line whose minors are followed. -/
  | released {v : Version} (boot : current ≠ p.bootstrapVersion)
      (hv : Developed (lines.releasedLine current p) v) : InDevelopment lines current p v

variable {lines : RetainedLines} {current : Version} {p : Policy} {major : Nat} {v : Version}

theorem Ordered.isLine_releasedLine (h : lines.Ordered) :
    ∃ major, IsLine major (lines.releasedLine current p) := by
  rw [releasedLine]
  split
  · split
    · exact ⟨0, .nil 0⟩
    · exact ⟨_, h _⟩
  · exact ⟨_, h _⟩

/-- The released lines are the minors of the line that is followed, unless that one is missing. -/
theorem released_eq_ok (h : ∀ previous, (lines.line current.major).length = 1 →
      p.previousMajor? current.major = some previous → lines.line previous ≠ []) :
    lines.released current p = .ok (.of (lines.releasedLine current p)) := by
  rw [released, releasedLine]
  by_cases hown : (lines.line current.major).length = 1
  · simp only [if_pos hown]
    cases hprevious : p.previousMajor? current.major with
    | none => rfl
    | some previous => exact if_neg (h previous hown hprevious)
  · simp only [if_neg hown]

theorem released_eq_error {previous : Nat} (hown : (lines.line current.major).length = 1)
    (hprevious : p.previousMajor? current.major = some previous)
    (hmissing : lines.line previous = []) :
    lines.released current p = .error (.missingLine previous) := by
  simp only [released, if_pos hown, hprevious, if_pos hmissing]

/-- A previous major with a version gives the versions in development on its line. -/
theorem Ordered.exists_developedBefore (h : lines.Ordered) (hne : lines.line major ≠ []) :
    ∃ versions, lines.developedBefore major = .ok versions ∧
      ∀ v, v ∈ versions ↔ DevelopedBefore (lines.line major) v := by
  obtain ⟨t, ht⟩ := (h major).exists_isLatest hne
  have htip : ∀ w, DevelopedBefore (lines.line major) w →
      w = t ∨ t.revision = 0 ∧ IsLeaf (lines.line major) w ∧ w.minor + 1 = t.minor := by
    intro w hw
    cases hw with
    | tip hw => exact .inl (hw.unique ht)
    | below ht' new leaf hw =>
      rw [ht'.unique ht] at new hw
      exact .inr ⟨new, leaf, hw⟩
  rw [developedBefore, h.newest_eq_ok_iff.2 ht, ok_bind, (h major).major_eq t ht.1]
  split
  · rename_i below hrevision hminor
    refine ⟨_, rfl, fun w => ?_⟩
    rw [List.mem_cons, Option.mem_toList, newestInMinor?_eq_some_iff]
    constructor
    · rintro (rfl | ⟨leaf, hw⟩)
      · exact .tip ht
      · exact .below ht hrevision leaf (by omega)
    · intro hw
      exact (htip w hw).imp id fun ⟨_, leaf, hw⟩ => ⟨leaf, by omega⟩
  · rename_i hnot
    refine ⟨[t], rfl, fun w => ?_⟩
    rw [List.mem_singleton]
    constructor
    · rintro rfl
      exact .tip ht
    · intro hw
      refine (htip w hw).resolve_right ?_
      rintro ⟨hrevision, -, hw⟩
      exact hnot w.minor hrevision hw.symm

/-! ### The outcome of the computation -/

/-- A lacking line fails the computation. -/
theorem unreleased_eq_error (h : lines.Lacks current p major) :
    lines.unreleased current p = .error (.missingLine major) := by
  obtain ⟨hboot, hprevious, hmissing, hneeded⟩ := h
  rw [unreleased, if_neg hboot]
  by_cases hfollows : current.major = p.bootstrapVersion.major
  · have hown := hneeded.resolve_left fun h => h hfollows
    simp only [if_pos hfollows, released_eq_error hown hprevious hmissing]
    rfl
  · have hbefore : lines.developedBefore major = .error (.missingLine major) := by
      rw [developedBefore, newest_eq_error_iff.2 ⟨rfl, hmissing⟩]
      rfl
    simp only [if_neg hfollows, hprevious, hbefore]
    rfl

/-- The first release is the only version in development. -/
theorem inDevelopment_iff_of_bootstrap (hboot : current = p.bootstrapVersion) :
    lines.InDevelopment current p v ↔ v = current := by
  constructor
  · intro hv
    cases hv with
    | current => rfl
    | before boot => exact absurd hboot boot
    | released boot => exact absurd hboot boot
  · rintro rfl
    exact .current

/-- The current version, those on the previous major and the cascade are the versions in
development. -/
theorem Ordered.mem_sorted (h : lines.Ordered) (hboot : current ≠ p.bootstrapVersion)
    {before : List Version}
    (hbefore : ∀ v, v ∈ before ↔ current.major ≠ p.bootstrapVersion.major ∧ ∃ previous,
      p.previousMajor? current.major = some previous ∧ DevelopedBefore (lines.line previous) v) :
    v ∈ dropRepeats (p.sortReleases (current :: before ++
      (MinorLines.of (lines.releasedLine current p)).developed)) ↔
        lines.InDevelopment current p v := by
  obtain ⟨_, hline⟩ : ∃ major, IsLine major (lines.releasedLine current p) :=
    h.isLine_releasedLine
  rw [mem_dropRepeats, p.mem_sortReleases, List.mem_append, List.mem_cons, hbefore,
    hline.mem_developed]
  constructor
  · rintro ((rfl | ⟨hfollows, previous, hprevious, hv⟩) | hv)
    · exact .current
    · exact .before hboot hfollows hprevious hv
    · exact .released hboot hv
  · intro hv
    cases hv with
    | current => exact .inl (.inl rfl)
    | before _ hfollows hprevious hv => exact .inl (.inr ⟨hfollows, _, hprevious, hv⟩)
    | released _ hv => exact .inr hv

/-- If no line is lacking, the computation gives the versions in development in release order. -/
theorem Ordered.exists_unreleased (h : lines.Ordered)
    (hlacks : ∀ major, ¬ lines.Lacks current p major) :
    ∃ versions, lines.unreleased current p = .ok versions ∧ versions.Pairwise p.Precedes ∧
      ∀ v, v ∈ versions ↔ lines.InDevelopment current p v := by
  rw [unreleased]
  by_cases hboot : current = p.bootstrapVersion
  · refine ⟨[current], if_pos hboot, List.pairwise_singleton _ _, fun v => ?_⟩
    rw [List.mem_singleton, inDevelopment_iff_of_bootstrap hboot]
  · have hreleased : lines.released current p = .ok (.of (lines.releasedLine current p)) :=
      released_eq_ok fun previous hown hprevious hmissing =>
        hlacks previous ⟨hboot, hprevious, hmissing, .inr hown⟩
    have hpairwise := p.pairwise_dropRepeats_sortReleases
    -- it remains to know the versions on the previous major
    simp only [if_neg hboot, hreleased, ok_bind]
    by_cases hfollows : current.major = p.bootstrapVersion.major
    · rw [if_pos hfollows]
      exact ⟨_, rfl, hpairwise _, fun v => h.mem_sorted hboot (by simp [hfollows])⟩
    · rw [if_neg hfollows]
      cases hprevious : p.previousMajor? current.major with
      | none => exact ⟨_, rfl, hpairwise _, fun v => h.mem_sorted hboot (by simp [hprevious])⟩
      | some previous =>
        have hne : lines.line previous ≠ [] := fun hmissing =>
          hlacks previous ⟨hboot, hprevious, hmissing, .inl hfollows⟩
        obtain ⟨before, hok, hbefore⟩ := h.exists_developedBefore hne
        simp only [hok, ok_bind]
        exact ⟨_, rfl, hpairwise _, fun v =>
          h.mem_sorted hboot (by simp [hfollows, hprevious, hbefore])⟩

/-- **The failures**: the computation fails exactly if a line is lacking. -/
theorem Ordered.unreleased_eq_error_iff (h : lines.Ordered) {e : MatrixError} :
    lines.unreleased current p = .error e ↔
      ∃ major, e = .missingLine major ∧ lines.Lacks current p major := by
  constructor
  · intro he
    by_cases hlacks : ∃ major, lines.Lacks current p major
    · obtain ⟨major, hmajor⟩ := hlacks
      rw [unreleased_eq_error hmajor] at he
      exact ⟨major, (Except.error.inj he).symm, hmajor⟩
    · obtain ⟨versions, hok, -⟩ := h.exists_unreleased (not_exists.1 hlacks)
      rw [hok] at he
      cases he
  · rintro ⟨major, rfl, hmajor⟩
    exact unreleased_eq_error hmajor

/-- **The results**: a list of versions is the result exactly if no line is lacking and it lists the
versions in development in release order. -/
theorem Ordered.unreleased_eq_ok_iff (h : lines.Ordered) {versions : List Version} :
    lines.unreleased current p = .ok versions ↔ (∀ major, ¬ lines.Lacks current p major) ∧
      versions.Pairwise p.Precedes ∧ ∀ v, v ∈ versions ↔ lines.InDevelopment current p v := by
  constructor
  · intro hok
    have hlacks : ∀ major, ¬ lines.Lacks current p major := by
      intro major hmajor
      rw [unreleased_eq_error hmajor] at hok
      cases hok
    obtain ⟨found, hfound, hpairwise, hmem⟩ := h.exists_unreleased hlacks
    rw [hfound] at hok
    cases hok
    exact ⟨hlacks, hpairwise, hmem⟩
  · rintro ⟨hlacks, hpairwise, hmem⟩
    obtain ⟨found, hfound, hpairwise', hmem'⟩ := h.exists_unreleased hlacks
    rw [hfound, eq_of_pairwise_of_mem_iff hpairwise' hpairwise fun v => (hmem' v).trans (hmem v).symm]

end RetainedLines

end ReleaseMatrix
