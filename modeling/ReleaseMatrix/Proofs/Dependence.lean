import ReleaseMatrix.Proofs.Compatibility

/-!
# What a matrix depends on

A matrix is computed from the lines of all kept majors, but it does not use them all. Which versions
are unreleased, on which branches and in which projects, is found on the line of the current version
and on the line of the major before it; what the current version has to be compatible with is found
on these and on the lines that its transition names. Other lines may be declared in any way. A line
that is not kept has no effect at all, not even on the error if no matrix is made.

## What is proved

* `RetainedLines.AgreeAround.placements_eq_ok`: lines that agree on the current major and the one
  before it give the same unreleased versions, branches and projects.
* `RetainedLines.indexCompatible_congr`, `RetainedLines.wireCompatible_congr`: each list of
  compatible versions is found on the lines of its own majors.
* `Matrix.build_congr`: the whole outcome is determined by the newest version and the kept ones.
-/

namespace ReleaseMatrix

/-! ### The lines around the current version -/

namespace RetainedLines

variable {lines lines' : RetainedLines} {current v : Version} {p : Policy} {major : Nat}

theorem newest_congr (h : lines.line major = lines'.line major) :
    lines.newest major = lines'.newest major := by
  rw [newest, newest, h]

theorem newestInMinor?_congr (h : lines.line major = lines'.line major) (minor : Nat) :
    lines.newestInMinor? major minor = lines'.newestInMinor? major minor := by
  rw [newestInMinor?, newestInMinor?, h]

theorem newestMinorLine_congr (h : lines.line major = lines'.line major) :
    lines.newestMinorLine major = lines'.newestMinorLine major := by
  rw [newestMinorLine, newestMinorLine, h]

/-- The newest version of a line is on its major, so the minor below is looked up on the same
line. -/
theorem Ordered.developedBefore_congr (hlines : lines.Ordered)
    (h : lines.line major = lines'.line major) :
    lines.developedBefore major = lines'.developedBefore major := by
  rw [developedBefore, developedBefore, ← newest_congr h]
  cases htip : lines.newest major with
  | error e => rfl
  | ok t =>
    have ht : t.major = major := (hlines major).major_eq t (hlines.newest_eq_ok_iff.1 htip).1
    simp only [ok_bind, ht, newestInMinor?_congr h]

theorem branch_congr (h : lines.line v.major = lines'.line v.major) (trunk : String)
    (project : Project) : lines.branch trunk v project = lines'.branch trunk v project := by
  cases project with
  | minor => rw [branch, branch, newest_congr h]
  | distribution => rfl
  | staged => rfl
  | bugfix => rfl
  | maintenance => rfl

/-- Lines that agree on the current major and on the one before it. -/
structure AgreeAround (current : Version) (p : Policy) (lines lines' : RetainedLines) : Prop where
  /-- They agree on the current major. -/
  own : lines.line current.major = lines'.line current.major
  /-- They agree on the previous major, if there is one. -/
  previous : ∀ major, p.previousMajor? current.major = some major →
    lines.line major = lines'.line major

namespace AgreeAround

theorem line_eq (h : AgreeAround current p lines lines')
    (hmajor : major = current.major ∨ p.previousMajor? current.major = some major) :
    lines.line major = lines'.line major := by
  rcases hmajor with rfl | hprevious
  · exact h.own
  · exact h.previous major hprevious

theorem released_eq (h : AgreeAround current p lines lines') :
    lines.released current p = lines'.released current p := by
  rw [released, released, h.own]
  cases hprevious : p.previousMajor? current.major with
  | none => rfl
  | some previous => simp only [h.previous previous hprevious]

theorem unreleased_eq (h : AgreeAround current p lines lines') (hlines : lines.Ordered) :
    lines.unreleased current p = lines'.unreleased current p := by
  rw [unreleased, unreleased, h.released_eq]
  cases hprevious : p.previousMajor? current.major with
  | none => rfl
  | some previous => simp only [hlines.developedBefore_congr (h.previous previous hprevious)]

theorem releasedLines_eq (h : AgreeAround current p lines lines') :
    Matrix.releasedLines lines current p = Matrix.releasedLines lines' current p := by
  rw [Matrix.releasedLines, Matrix.releasedLines, h.released_eq]

/-- The same versions are unreleased, with the same branches and projects. -/
theorem placements_eq_ok (h : AgreeAround current p lines lines') (hlines : lines.Ordered)
    {us : List Unreleased} (hus : Matrix.placements lines current p = .ok us) :
    Matrix.placements lines' current p = .ok us := by
  obtain ⟨released, hversions, hreleased, hplaced⟩ := Matrix.placements_eq_ok_iff.1 hus
  refine Matrix.placements_eq_ok_iff.2 ⟨released, ?_, ?_, fun u hu => ⟨(hplaced u hu).1, ?_⟩⟩
  · rw [← h.unreleased_eq hlines, hversions]
  · rw [← h.releasedLines_eq, hreleased]
  · -- an unreleased version is on one of the two lines, so its branch is found there
    have hdev : lines.InDevelopment current p u.version :=
      ((hlines.unreleased_eq_ok_iff.1 hversions).2.2 _).1 (List.mem_map_of_mem hu)
    rw [← branch_congr (h.line_eq (hdev.major_eq hlines)), (hplaced u hu).2]

end AgreeAround

/-! ### The lines of compatible versions -/

theorem indexCompatible_congr
    (h : ∀ major ∈ indexMajors current p, lines.line major = lines'.line major) :
    lines.indexCompatible current p = lines'.indexCompatible current p := by
  rw [indexCompatible, indexCompatible, List.flatMap_congr h]

theorem wireCompatible_congr
    (h : ∀ major ∈ wireMajors current p, lines.line major = lines'.line major) :
    lines.wireCompatible current p = lines'.wireCompatible current p := by
  refine eq_of_pairwise_of_mem_iff pairwise_wireCompatible pairwise_wireCompatible fun v => ?_
  rw [mem_wireCompatible, mem_wireCompatible]
  refine and_congr_right fun _ => or_congr ?_ (or_congr ?_ ?_)
  · refine exists_congr fun major => and_congr_right fun hprevious => ?_
    rw [newestMinorLine_congr (h major (mem_wireMajors.2 (.inl hprevious)))]
  · refine exists_congr fun t => and_congr_right fun ht => exists_congr fun major =>
      and_congr_right fun hmem => ?_
    rw [h major (mem_wireMajors.2 (.inr (.inl ⟨t, ht, hmem⟩)))]
  · rw [h current.major (mem_wireMajors.2 (.inr (.inr rfl)))]

/-! ### Declared versions -/

variable {declared declared' : SortedSet Version}

/-- The kept lines are determined by the kept versions. -/
theorem of_congr (h : ∀ v, p.Keeps declared current v ↔ p.Keeps declared' current v) :
    of declared current p = of declared' current p := by
  have hfilter : (declared.toList.filter fun v => p.Retains current.major v.major) =
      declared'.toList.filter fun v => p.Retains current.major v.major := by
    refine eq_of_pairwise_of_mem_iff (declared.ascending.filter _) (declared'.ascending.filter _)
      fun v => ?_
    rw [List.mem_filter, List.mem_filter, decide_eq_true_eq]
    exact h v
  rw [of, of, hfilter]

end RetainedLines

/-- Two sets of declared versions have the same versions on a major. -/
def SameOn (declared declared' : SortedSet Version) (major : Nat) : Prop :=
  ∀ v : Version, v.major = major → (v ∈ declared ↔ v ∈ declared')

/-- A major that a transition names, for indices or for the wire. -/
def Transition.Names (t : Transition) (major : Nat) : Prop :=
  t.wirePreviousMajor = some major ∨ major ∈ t.extraIndexMajors ∨ major ∈ t.extraWireMajors

instance (t : Transition) (major : Nat) : Decidable (t.Names major) :=
  inferInstanceAs (Decidable (t.wirePreviousMajor = some major ∨ major ∈ t.extraIndexMajors ∨
    major ∈ t.extraWireMajors))

section

variable {declared declared' : SortedSet Version} {current v : Version} {p : Policy} {major : Nat}

theorem SameOn.insert (h : v.major ≠ major) : SameOn declared (declared.insert v) major := by
  intro w hw
  rw [SortedSet.mem_insert]
  refine ⟨.inr, fun hmem => hmem.resolve_left ?_⟩
  rintro rfl
  exact h hw

theorem SameOn.line_eq (h : SameOn declared declared' major) :
    (RetainedLines.of declared current p).line major =
      (RetainedLines.of declared' current p).line major := by
  refine eq_of_pairwise_of_mem_iff (RetainedLines.ordered_of major).ascending
    (RetainedLines.ordered_of major).ascending fun v => ?_
  rw [RetainedLines.mem_line_of, RetainedLines.mem_line_of, Policy.Keeps, Policy.Keeps]
  exact and_congr_left fun hmajor => and_congr_left fun _ => h v hmajor

/-- A major that the current version has to do with: its own, the one before it, or one that its
transition names. -/
def Policy.Involves (p : Policy) (current major : Nat) : Prop :=
  (major = current ∨ p.previousMajor? current = some major) ∨
    ∃ t, p.transition? current = some t ∧ t.Names major

/-- The majors whose indices are read are such majors. -/
theorem RetainedLines.involves_of_mem_indexMajors (h : major ∈ indexMajors current p) :
    p.Involves current.major major := by
  obtain ⟨t, ht, hmem⟩ | hprevious | hown := mem_indexMajors.1 h
  · exact .inr ⟨t, ht, .inr (.inl hmem)⟩
  · exact .inl (.inr hprevious)
  · exact .inl (.inl hown)

/-- The majors on which others are talked to are such majors. -/
theorem RetainedLines.involves_of_mem_wireMajors (h : major ∈ wireMajors current p) :
    p.Involves current.major major := by
  obtain hwire | ⟨t, ht, hmem⟩ | hown := mem_wireMajors.1 h
  · rw [Policy.wirePreviousMajor?, Option.or_eq_some_iff, Option.bind_eq_some_iff] at hwire
    obtain ⟨t, ht, hmajor⟩ | ⟨-, hprevious⟩ := hwire
    · exact .inr ⟨t, ht, .inl hmajor⟩
    · exact .inl (.inr hprevious)
  · exact .inr ⟨t, ht, .inr (.inr hmem)⟩
  · exact .inl (.inl hown)

end

namespace Matrix

variable {declared declared' : SortedSet Version} {current expected v : Version} {p : Policy}
  {m m' : Matrix}

/-! ### Unrelated lines -/

/-- **Unrelated lines do not interfere.** Two matrices for one current version have the same
unreleased versions, with the same branches and projects, if the same versions are declared on the
current major and on the one before it. If that is so on the majors that the transition names as
well, the current version has to be compatible with the same versions. -/
theorem unreleased_eq_of_sameOn (h : build declared current p = .ok m)
    (h' : build declared' current p = .ok m') (hown : SameOn declared declared' current.major)
    (hprevious : ∀ major, p.previousMajor? current.major = some major →
      SameOn declared declared' major) :
    m.unreleased = m'.unreleased ∧
    ((∀ t, p.transition? current.major = some t → ∀ major, t.Names major →
        SameOn declared declared' major) →
      m.indexCompatible = m'.indexCompatible ∧ m.wireCompatible = m'.wireCompatible) := by
  have hbuilt := build_eq_ok_iff.1 h
  have hbuilt' := build_eq_ok_iff.1 h'
  have hagree : RetainedLines.AgreeAround current p (.of declared current p)
      (.of declared' current p) :=
    ⟨hown.line_eq, fun major hmajor => (hprevious major hmajor).line_eq⟩
  constructor
  · have hplaced := hagree.placements_eq_ok RetainedLines.ordered_of hbuilt.placed
    exact Except.ok.inj (hplaced.symm.trans hbuilt'.placed)
  · intro hnames
    have hline : ∀ major, p.Involves current.major major →
        (RetainedLines.of declared current p).line major =
          (RetainedLines.of declared' current p).line major := by
      rintro major (hmajor | ⟨t, ht, hmajor⟩)
      · exact hagree.line_eq hmajor
      · exact (hnames t ht major hmajor).line_eq
    rw [hbuilt.indexCompatible_eq, hbuilt'.indexCompatible_eq, hbuilt.wireCompatible_eq,
      hbuilt'.wireCompatible_eq]
    constructor
    · exact RetainedLines.indexCompatible_congr fun major hmem =>
        hline major (RetainedLines.involves_of_mem_indexMajors hmem)
    · exact RetainedLines.wireCompatible_congr fun major hmem =>
        hline major (RetainedLines.involves_of_mem_wireMajors hmem)

/-- Line 6 is kept as well, but neither does version 2 follow it nor does its transition name it. -/
theorem unreleased_eq_of_sameOn_continuedLines :
    ∃ m m', build continuedLines (.of 2 1 0) .standard = .ok m ∧
      build (continuedLines.insert (.of 6 8 0)) (.of 2 1 0) .standard = .ok m' ∧
      m.lines.majors = [1, 2, 7] ∧ m'.lines.majors = [1, 2, 6, 7] ∧
      m.unreleased = m'.unreleased ∧ m.indexCompatible = m'.indexCompatible ∧
      m.wireCompatible = m'.wireCompatible := by
  have h : build continuedLines (.of 2 1 0) .standard = .ok _ := rfl
  have h' : build (continuedLines.insert (.of 6 8 0)) (.of 2 1 0) .standard = .ok _ := rfl
  obtain ⟨hunreleased, hcompatible⟩ := unreleased_eq_of_sameOn h h' (.insert (by decide))
    fun major hmajor => by
      cases hmajor
      exact .insert (by decide)
  refine ⟨_, _, h, h', rfl, rfl, hunreleased, hcompatible fun t ht major hnames => ?_⟩
  cases ht
  refine .insert ?_
  rintro rfl
  revert hnames
  decide

/-! ### Dropped lines -/

/-- The outcome is determined by the newest version and the kept ones. -/
theorem build_congr (hnewest : p.newest? declared.toList = p.newest? declared'.toList)
    (hkeeps : ∀ newest, p.newest? declared.toList = some newest →
      ∀ v, p.Keeps declared newest v ↔ p.Keeps declared' newest v) :
    build declared expected p = build declared' expected p := by
  rw [build, build, ← hnewest]
  cases hlatest : p.newest? declared.toList with
  | none => rfl
  | some newest => simp only [RetainedLines.of_congr (hkeeps newest hlatest)]

end Matrix

/-- The declared versions that are kept with the newest of them as the current version. -/
def Policy.keptVersions (p : Policy) (declared : SortedSet Version) : SortedSet Version :=
  match p.newest? declared.toList with
  | none => declared
  | some newest =>
    ⟨declared.toList.filter fun v => p.Retains newest.major v.major, declared.ascending.filter _⟩

namespace Policy

variable {p : Policy} {declared : SortedSet Version} {newest v : Version}

theorem mem_keptVersions (h : p.newest? declared.toList = some newest) :
    v ∈ p.keptVersions declared ↔ p.Keeps declared newest v := by
  simp only [keptVersions, h, SortedSet.mem_def, List.mem_filter, decide_eq_true_eq, Keeps]

/-- The newest version is kept, and it remains the newest. -/
theorem newest?_keptVersions (hretained : 0 < p.retainedMajors)
    (h : p.newest? declared.toList = some newest) :
    p.newest? (p.keptVersions declared).toList = some newest := by
  have hlatest := newest?_eq_some_iff.1 h
  refine newest?_eq_some_iff.2 ⟨?_, fun v hv hne => ?_⟩
  · exact (mem_keptVersions h).2 ⟨hlatest.1, retains_self hretained _⟩
  · exact hlatest.2 v ((mem_keptVersions h).1 hv).1 hne

end Policy

namespace Matrix

/-- **Dropped lines have no effect.** Under a policy that keeps any line the outcome, be it a matrix
or an error, is that of the kept versions alone. -/
theorem build_keptVersions (declared : SortedSet Version) (expected : Version) {p : Policy}
    (h : 1 ≤ p.retainedMajors) :
    build (p.keptVersions declared) expected p = build declared expected p := by
  cases hnewest : p.newest? declared.toList with
  | none => rw [Policy.keptVersions, hnewest]
  | some newest =>
    have hkept := Policy.newest?_keptVersions h hnewest
    refine build_congr (hkept.trans hnewest.symm) fun w hw v => ?_
    cases hkept.symm.trans hw
    rw [Policy.Keeps, Policy.mem_keptVersions hnewest, Policy.Keeps, and_assoc, and_self]

/-- With 2.1.0 as the newest version line 0 is dropped. -/
theorem build_keptVersions_firstLine :
    Policy.standard.keptVersions (continuedLines.insert (.of 0 9 0)) = continuedLines ∧
      (∃ m, build (continuedLines.insert (.of 0 9 0)) (.of 2 1 0) .standard = .ok m) ∧
      build continuedLines (.of 2 1 0) .standard =
        build (continuedLines.insert (.of 0 9 0)) (.of 2 1 0) .standard := by
  have hkept : Policy.standard.keptVersions (continuedLines.insert (.of 0 9 0)) = continuedLines :=
    by decide
  have h := build_keptVersions (continuedLines.insert (.of 0 9 0)) (.of 2 1 0)
    (p := .standard) (by decide)
  rw [hkept] at h
  exact ⟨hkept, ⟨_, rfl⟩, h⟩

end Matrix

end ReleaseMatrix
