import ReleaseMatrix.Proofs.Released

/-!
# The release of a version

When an unreleased version is released, its next revision is declared. That revision takes its place
among the unreleased versions and the version itself becomes a released one. It may be that more
versions cease to be unreleased, since a minor that has a second revision is no longer alone, but
none is added.

The two sets of lines are compared line by line. `LineStep` relates a line to what becomes of it:
nothing, if the released version is not on it. A leaf remains a leaf unless it was released, and its
next revision is one in its place; minors that are alone afterwards were alone before.

## What is proved

* `LineStep.developed_of`, `LineStep.developed_next`: what is in development on one line afterwards.
* `RetainedLines.ReleaseStep.inDevelopment_of`, `RetainedLines.ReleaseStep.inDevelopment_next`: what
  is in development in a build afterwards.
-/

namespace ReleaseMatrix

/-! ### The next revision -/

namespace Version

variable {u w : Version} {hr : u.revision + 1 < 0x100000000}

/-- The next revision of a version, if its number fits. -/
def next (u : Version) (hr : u.revision + 1 < 0x100000000) : Version :=
  { u with revision := u.revision + 1, revision_lt := hr }

@[simp] theorem next_major : (u.next hr).major = u.major := rfl

@[simp] theorem next_minor : (u.next hr).minor = u.minor := rfl

@[simp] theorem next_revision : (u.next hr).revision = u.revision + 1 := rfl

theorem lt_next : u < u.next hr := by
  rw [lt_def]
  exact .inr ⟨rfl, .inr ⟨rfl, Nat.lt_succ_self _⟩⟩

theorem next_ne : u.next hr ≠ u := (Std.ne_of_lt lt_next).symm

/-- The next revision comes before the same versions of other minors. -/
theorem next_lt (h : u < w) (hne : w.major = u.major → w.minor ≠ u.minor) : u.next hr < w := by
  rw [lt_def] at *
  simp only [next_major, next_minor, next_revision]
  omega

end Version

/-- The next revision precedes the same versions of other minors. -/
theorem Policy.Precedes.next {p : Policy} {u w : Version} {hr : u.revision + 1 < 0x100000000}
    (h : p.Precedes u w) (hne : w.major = u.major → w.minor ≠ u.minor) :
    p.Precedes (u.next hr) w := by
  rw [Policy.precedes_def] at *
  exact h.imp id (And.imp id fun hlt => Version.next_lt hlt hne)

/-! ### One line -/

/-- A line before and after the release of a version: if the version is on the line, it is a leaf of
it and its next revision is added. -/
structure LineStep {u : Version} (hr : u.revision + 1 < 0x100000000)
    (line line' : List Version) : Prop where
  /-- The released version is a leaf of its line. -/
  leaf : u ∈ line → IsLeaf line u
  /-- Its next revision is the only version that is added. -/
  mem_iff : ∀ w, w ∈ line' ↔ w ∈ line ∨ w = u.next hr ∧ u ∈ line

namespace LineStep

variable {u t v : Version} {hr : u.revision + 1 < 0x100000000} {line line' : List Version}
  {minor : Nat}

theorem nil : LineStep hr [] [] := ⟨fun h => absurd h List.not_mem_nil, by simp⟩

theorem mem (h : LineStep hr line line') (hv : v ∈ line) : v ∈ line' :=
  (h.mem_iff v).2 (.inl hv)

theorem mem_next (h : LineStep hr line line') (hu : u ∈ line) : u.next hr ∈ line' :=
  (h.mem_iff _).2 (.inr ⟨rfl, hu⟩)

/-! ### The newest version -/

theorem isLatest (h : LineStep hr line line') (ht : IsLatest (· < ·) line t)
    (hminor : t.minor ≠ u.minor) : IsLatest (· < ·) line' t := by
  refine ⟨h.mem ht.1, ?_⟩
  intro w hw hne
  rcases (h.mem_iff w).1 hw with hw | ⟨rfl, hu⟩
  · exact ht.2 w hw hne
  · have hlt : u < t := ht.2 u hu fun heq => hminor (heq ▸ rfl)
    exact Version.next_lt hlt fun _ => hminor

theorem isLatest_next (h : LineStep hr line line') (hu : IsLatest (· < ·) line u) :
    IsLatest (· < ·) line' (u.next hr) := by
  refine ⟨h.mem_next hu.1, ?_⟩
  intro w hw hne
  have hw : w ∈ line := ((h.mem_iff w).1 hw).resolve_right fun hw => hne hw.1
  by_cases hwu : w = u
  · exact hwu ▸ Version.lt_next
  · exact Version.lt_trans (hu.2 w hw hwu) Version.lt_next

theorem isLatest_of (h : LineStep hr line line') (ht : IsLatest (· < ·) line' t) :
    IsLatest (· < ·) line t ∨ t = u.next hr ∧ u ∈ line := by
  refine ((h.mem_iff t).1 ht.1).imp_left fun hmem => ⟨hmem, ?_⟩
  intro w hw hne
  exact ht.2 w (h.mem hw) hne

/-! ### Leaves -/

theorem isLeaf_next (h : LineStep hr line line') (hu : u ∈ line) :
    IsLeaf line' (u.next hr) := by
  refine ⟨h.mem_next hu, ?_⟩
  intro w hw hminor
  rcases (h.mem_iff w).1 hw with hw | ⟨rfl, -⟩
  · have hle : w ≤ u := (h.leaf hu).2 w hw hminor
    rcases Version.le_def.1 hle with hlt | rfl
    · exact Version.le_def.2 (.inl (Version.lt_trans hlt Version.lt_next))
    · exact Version.le_def.2 (.inl Version.lt_next)
  · exact Version.le_def.2 (.inr rfl)

theorem isLeaf_of (h : LineStep hr line line') (hv : IsLeaf line' v) :
    IsLeaf line v ∨ v = u.next hr := by
  rcases (h.mem_iff v).1 hv.1 with hmem | ⟨heq, -⟩
  · exact .inl ⟨hmem, fun w hw hminor => hv.2 w (h.mem hw) hminor⟩
  · exact .inr heq

/-! ### Minors that are alone -/

theorem isAlone (h : LineStep hr line line') (alone : IsAlone line minor)
    (hminor : minor ≠ u.minor) : IsAlone line' minor := by
  obtain ⟨v, ⟨hv, hvminor⟩, huniq⟩ := alone
  refine ⟨v, ⟨h.mem hv, hvminor⟩, ?_⟩
  rintro w ⟨hw, hwminor⟩
  rcases (h.mem_iff w).1 hw with hw | ⟨rfl, -⟩
  · exact huniq w ⟨hw, hwminor⟩
  · exact absurd hwminor.symm hminor

/-- The minor of the released version has both that version and the next revision. -/
theorem not_isAlone (h : LineStep hr line line') (hu : u ∈ line) : ¬ IsAlone line' u.minor := by
  intro alone
  exact Version.next_ne (alone.unique ⟨h.mem_next hu, rfl⟩ ⟨h.mem hu, rfl⟩)

theorem isAlone_of (h : LineStep hr line line') (alone : IsAlone line' minor) :
    IsAlone line minor := by
  obtain ⟨v, ⟨hv, rfl⟩, huniq⟩ := id alone
  rcases (h.mem_iff v).1 hv with hv | ⟨rfl, hu⟩
  · exact ⟨v, ⟨hv, rfl⟩, fun w ⟨hw, hminor⟩ => huniq w ⟨h.mem hw, hminor⟩⟩
  · exact absurd alone (h.not_isAlone hu)

theorem isLatest_of_isAlone (h : LineStep hr line line') (ht : IsLatest (· < ·) line' t)
    (alone : IsAlone line' t.minor) : IsLatest (· < ·) line t := by
  refine (h.isLatest_of ht).resolve_right ?_
  rintro ⟨rfl, hu⟩
  exact h.not_isAlone hu alone

/-! ### What is in development -/

/-- Nothing but the next revision comes into development. -/
theorem developed_of (h : LineStep hr line line') (hv : Developed line' v) :
    Developed line v ∨ v = u.next hr := by
  cases hv with
  | tip ht => exact (h.isLatest_of ht).imp .tip And.left
  | below ht alone leaf hv =>
    refine (h.isLeaf_of leaf).imp_left fun leaf => ?_
    exact .below (h.isLatest_of_isAlone ht alone) (h.isAlone_of alone) leaf hv
  | staged ht alone alone' leaf hv =>
    refine (h.isLeaf_of leaf).imp_left fun leaf => ?_
    exact .staged (h.isLatest_of_isAlone ht alone) (h.isAlone_of alone) (h.isAlone_of alone') leaf hv

/-- The next revision takes the place of the released version. -/
theorem developed_next (h : LineStep hr line line') (hu : Developed line u) :
    Developed line' (u.next hr) := by
  cases hu with
  | tip ht => exact .tip (h.isLatest_next ht)
  | @below t _ ht alone leaf hv =>
    have hminor : t.minor ≠ u.minor := by omega
    exact .below (h.isLatest ht hminor) (h.isAlone alone hminor) (h.isLeaf_next leaf.1) hv
  | @staged t _ ht alone alone' leaf hv =>
    have hminor : t.minor ≠ u.minor := by omega
    have hminor' : u.minor + 1 ≠ u.minor := by omega
    exact .staged (h.isLatest ht hminor) (h.isAlone alone hminor) (h.isAlone alone' hminor')
      (h.isLeaf_next leaf.1) hv

theorem developedBefore_of (h : LineStep hr line line') (hv : DevelopedBefore line' v) :
    DevelopedBefore line v ∨ v = u.next hr := by
  cases hv with
  | tip ht => exact (h.isLatest_of ht).imp .tip And.left
  | below ht new leaf hv =>
    refine (h.isLeaf_of leaf).imp_left fun leaf => ?_
    refine .below ((h.isLatest_of ht).resolve_right ?_) new leaf hv
    -- the next revision is not a new minor
    rintro ⟨rfl, -⟩
    exact Nat.succ_ne_zero _ new

theorem developedBefore_next (h : LineStep hr line line') (hu : DevelopedBefore line u) :
    DevelopedBefore line' (u.next hr) := by
  cases hu with
  | tip ht => exact .tip (h.isLatest_next ht)
  | @below t _ ht new leaf hv =>
    have hminor : t.minor ≠ u.minor := by omega
    exact .below (h.isLatest ht hminor) new (h.isLeaf_next leaf.1) hv

/-- A line with a version besides the released one does not become or cease to be a single one. -/
theorem length_eq_one_iff (h : LineStep hr line line') (hline : line.Nodup)
    (hline' : line'.Nodup) (hother : u ∈ line → ∃ w ∈ line, w ≠ u) :
    line'.length = 1 ↔ line.length = 1 := by
  rw [length_eq_one_iff_existsUnique hline, length_eq_one_iff_existsUnique hline']
  by_cases hu : u ∈ line
  · obtain ⟨w, hw, hne⟩ := hother hu
    refine iff_of_false (fun h' => ?_) fun h' => ?_
    · exact hne (h'.unique (h.mem hw) (h.mem hu))
    · exact hne (h'.unique hw hu)
  · simp only [h.mem_iff, hu, and_false, or_false]

end LineStep

/-! ### The kept lines -/

namespace RetainedLines

variable {declared : SortedSet Version} {current u v : Version} {p : Policy}
  {hr : u.revision + 1 < 0x100000000} {lines lines' : RetainedLines} {major : Nat}

/-- The kept lines before and after the release of a version. -/
structure ReleaseStep {u : Version} (hr : u.revision + 1 < 0x100000000) (current : Version)
    (lines lines' : RetainedLines) : Prop where
  /-- Every line is related to what becomes of it. -/
  line : ∀ major, LineStep hr (lines.line major) (lines'.line major)
  /-- The current version is alone on its line if it was so before. -/
  own : (lines'.line current.major).length = 1 ↔ (lines.line current.major).length = 1

namespace ReleaseStep

theorem releasedLine (h : ReleaseStep hr current lines lines') (p : Policy) :
    LineStep hr (lines.releasedLine current p) (lines'.releasedLine current p) := by
  simp only [RetainedLines.releasedLine, h.own]
  split
  · split
    · exact .nil
    · exact h.line _
  · exact h.line _

theorem inDevelopment_of (h : ReleaseStep hr current lines lines')
    (hv : lines'.InDevelopment current p v) :
    lines.InDevelopment current p v ∨ v = u.next hr := by
  cases hv with
  | current => exact .inl .current
  | before boot follows hprevious hv =>
    exact ((h.line _).developedBefore_of hv).imp_left fun hv => .before boot follows hprevious hv
  | released boot hv =>
    exact ((h.releasedLine p).developed_of hv).imp_left fun hv => .released boot hv

theorem inDevelopment_next (h : ReleaseStep hr current lines lines')
    (hu : lines.InDevelopment current p u) (hne : u ≠ current) :
    lines'.InDevelopment current p (u.next hr) := by
  cases hu with
  | current => exact absurd rfl hne
  | before boot follows hprevious hu =>
    exact .before boot follows hprevious ((h.line _).developedBefore_next hu)
  | released boot hu => exact .released boot ((h.releasedLine p).developed_next hu)

/-- No line becomes lacking. -/
theorem lacks_of (h : ReleaseStep hr current lines lines') (hlacks : lines'.Lacks current p major) :
    lines.Lacks current p major := by
  obtain ⟨boot, hprevious, hmissing, hneeded⟩ := hlacks
  refine ⟨boot, hprevious, ?_, hneeded.imp_right h.own.1⟩
  rw [List.eq_nil_iff_forall_not_mem] at *
  exact fun w hw => hmissing w ((h.line major).mem hw)

end ReleaseStep

/-- Declaring the next revision of a version in development is such a step. -/
theorem releaseStep_of (hnewest : IsLatest p.Precedes declared.toList current)
    (hu : (of declared current p).InDevelopment current p u) (hne : u ≠ current)
    (hr : u.revision + 1 < 0x100000000) :
    ReleaseStep hr current (of declared current p) (of (declared.insert (u.next hr)) current p) := by
  have hline : ∀ major, LineStep hr ((of declared current p).line major)
      ((of (declared.insert (u.next hr)) current p).line major) := by
    refine fun major => ⟨fun hmem => ?_, fun w => ?_⟩
    · have hmajor : u.major = major := (mem_line_of.1 hmem).2
      exact hmajor ▸ hu.isLeaf ordered_of hne
    · simp only [mem_line_of, Policy.Keeps, SortedSet.mem_insert]
      constructor
      · rintro ⟨⟨rfl | hw, hretains⟩, hmajor⟩
        · exact .inr ⟨rfl, ⟨hu.mem_declared hnewest, hretains⟩, hmajor⟩
        · exact .inl ⟨⟨hw, hretains⟩, hmajor⟩
      · rintro (⟨⟨hw, hretains⟩, hmajor⟩ | ⟨rfl, ⟨-, hretains⟩, hmajor⟩)
        · exact ⟨⟨.inr hw, hretains⟩, hmajor⟩
        · exact ⟨⟨.inl rfl, hretains⟩, hmajor⟩
  refine ⟨hline, ?_⟩
  refine (hline _).length_eq_one_iff (ordered_of _).nodup (ordered_of _).nodup fun hmem => ?_
  -- if the released version is on the own line, so is the current version
  obtain ⟨⟨-, hretains⟩, hmajor⟩ := mem_line_of.1 hmem
  exact ⟨current, mem_line_of.2 ⟨⟨hnewest.1, hmajor ▸ hretains⟩, rfl⟩, Ne.symm hne⟩

end RetainedLines

/-! ### The matrix -/

namespace Matrix

variable {declared : SortedSet Version} {current u v : Version} {p : Policy} {m : Matrix}

/-- The current version remains the newest one. -/
theorem Built.isLatest_insert_next (h : Built declared current p m)
    (hu : u ∈ m.unreleasedVersions) (hne : u ≠ current) (hr : u.revision + 1 < 0x100000000) :
    IsLatest p.Precedes (declared.insert (u.next hr)).toList current := by
  refine ⟨SortedSet.mem_insert.2 (.inr h.newest.1), ?_⟩
  intro w hw hwne
  rcases SortedSet.mem_insert.1 hw with rfl | hw
  · have hprecedes : p.Precedes u current := h.isLatest_unreleasedVersions.2 u hu hne
    refine hprecedes.next fun hmajor hminor => ?_
    -- on the minor of the released version there is no newer version
    have hle : current ≤ u := (h.mem_unreleasedVersions_iff.1 hu).le_of_declared h.newest h.newest.1
      hmajor hminor
    exact Version.le_iff_not_lt.1 hle ((Policy.precedes_iff_lt hmajor.symm).1 hprecedes)
  · exact h.newest.2 w hw hwne

/-- The kept majors are the same. -/
theorem keptMajors_insert_next (hu : p.Keeps declared current u)
    (hr : u.revision + 1 < 0x100000000) {majors : List Nat} :
    p.KeptMajors (declared.insert (u.next hr)) current majors ↔
      p.KeptMajors declared current majors := by
  refine and_congr_right fun _ => forall_congr' fun major => iff_congr .rfl ?_
  constructor
  · rintro ⟨v, ⟨hv, hretains⟩, hmajor⟩
    rcases SortedSet.mem_insert.1 hv with rfl | hv
    · exact ⟨u, hu, hmajor⟩
    · exact ⟨v, ⟨hv, hretains⟩, hmajor⟩
  · rintro ⟨v, ⟨hv, hretains⟩, hmajor⟩
    exact ⟨v, ⟨SortedSet.mem_insert.2 (.inr hv), hretains⟩, hmajor⟩

/-- **The release of a version.** If the next revision of an unreleased version is declared, the
matrix is made with the same current version. The next revision is unreleased and the version is
not, no other version has become unreleased, and the version is released unless its line is a legacy
line. -/
theorem build_next (h : build declared current p = .ok m) (hu : u ∈ m.unreleasedVersions)
    (hne : u ≠ current) (hr : u.revision + 1 < 0x100000000) :
    ∃ m', build (declared.insert (u.next hr)) current p = .ok m' ∧ m'.current = m.current ∧
      u.next hr ∈ m'.unreleasedVersions ∧ u ∉ m'.unreleasedVersions ∧
      (∀ v ∈ m'.unreleasedVersions, v ≠ u.next hr → v ∈ m.unreleasedVersions) ∧
      (u ∈ m'.released ↔ ¬ p.isLegacy u.major) := by
  have hbuilt := build_eq_ok_iff.1 h
  have hdev := hbuilt.mem_unreleasedVersions_iff.1 hu
  have hkeeps : p.Keeps declared current u :=
    (RetainedLines.mem_line_of.1 (hdev.isLeaf RetainedLines.ordered_of hne).1).1
  have hstep := RetainedLines.releaseStep_of hbuilt.newest hdev hne hr
  have hcount : ¬ Miscounted (declared.insert (u.next hr)) current p := by
    simp only [Miscounted, keptMajors_insert_next hkeeps hr]
    exact hbuilt.counted
  have hlacks : ∀ major, ¬ Lacks (declared.insert (u.next hr)) current p major := by
    intro major hmajor
    exact hbuilt.not_lacks (lacks_iff.2 (hstep.lacks_of (lacks_iff.1 hmajor)))
  obtain ⟨m', hm'⟩ := exists_build (hbuilt.isLatest_insert_next hu hne hr) hcount hlacks
  have hbuilt' := build_eq_ok_iff.1 hm'
  have hnot : u ∉ m'.unreleasedVersions := by
    intro hmem
    have hle : u.next hr ≤ u := (hbuilt'.mem_unreleasedVersions_iff.1 hmem).le_of_declared
      hbuilt'.newest (SortedSet.mem_insert.2 (.inl rfl)) rfl rfl
    exact Version.le_iff_not_lt.1 hle Version.lt_next
  refine ⟨m', hm', hbuilt'.current_eq.trans hbuilt.current_eq.symm, ?_, hnot, ?_, ?_⟩
  · exact hbuilt'.mem_unreleasedVersions_iff.2 (hstep.inDevelopment_next hdev hne)
  · intro v hv hvne
    have hv' := hstep.inDevelopment_of (hbuilt'.mem_unreleasedVersions_iff.1 hv)
    exact hbuilt.mem_unreleasedVersions_iff.2 (hv'.resolve_right hvne)
  · rw [hbuilt'.mem_released]
    have hkeeps' : p.Keeps (declared.insert (u.next hr)) current u :=
      ⟨SortedSet.mem_insert.2 (.inr hkeeps.1), hkeeps.2⟩
    exact ⟨fun hmem => hmem.2.2, fun hlegacy => ⟨hkeeps', hnot, hlegacy⟩⟩

/-- With a second revision the minor 5.2 is not alone any more, so 5.1.1 is not staged. -/
theorem build_next_stagedMinors :
    ∃ m m', build stagedMinors (.of 5 3 0) .standard = .ok m ∧
      build (stagedMinors.insert (.of 5 2 1)) (.of 5 3 0) .standard = .ok m' ∧
      m.unreleasedVersions = [.of 4 2 0, .of 4 3 0, .of 5 1 1, .of 5 2 0, .of 5 3 0] ∧
      m'.unreleasedVersions = [.of 4 2 0, .of 4 3 0, .of 5 2 1, .of 5 3 0] ∧
      .of 5 2 0 ∈ m'.released := by
  have h : build stagedMinors (.of 5 3 0) .standard = .ok _ := rfl
  obtain ⟨m', hm', -, -, -, -, hreleased⟩ := build_next (u := .of 5 2 0) h (by decide) (by decide)
    (by decide)
  have hversions := congrArg (Except.map unreleasedVersions) hm'
  exact ⟨_, m', rfl, hm', rfl, Except.ok.inj hversions.symm, hreleased.2 (by decide)⟩

end Matrix

end ReleaseMatrix
