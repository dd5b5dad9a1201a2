import ReleaseMatrix.Proofs.Projects

/-!
# Which project builds a version

The project of an unreleased version is found by a look-up among the released minors and by a place
in the list of the unreleased versions. Here both are replaced by rules on what is declared. A later
revision falls to the maintenance project if it is on another major than the current version and
that one is not alone on its own (`OnOlderLine`); while it is alone, the line before it is the one
whose released minors are followed. A new minor falls to the minor project if every other new minor,
the current version apart, is older (`IsNewestMinor`), and is staged otherwise; this presumes that
the current version is a new minor too.
-/

namespace ReleaseMatrix

namespace RetainedLines

variable {declared : SortedSet Version} {current : Version} {p : Policy}

/-- The line of the current version has all declared versions of its major, if any line is kept. -/
theorem line_current (hretained : 0 < p.retainedMajors) :
    (of declared current p).line current.major =
      declared.toList.filter fun w => w.major = current.major := by
  rw [line_of]
  simp only [p.retains_self hretained current.major, and_true]

end RetainedLines

/-! ### Later revisions -/

/-- A version on another major than the current one, on whose major two versions at least are
declared. -/
def OnOlderLine (declared : SortedSet Version) (current v : Version) : Prop :=
  v.major ≠ current.major ∧ 2 ≤ (declared.toList.filter fun w => w.major = current.major).length

instance (declared : SortedSet Version) (current v : Version) :
    Decidable (OnOlderLine declared current v) :=
  inferInstanceAs (Decidable (v.major ≠ current.major ∧
    2 ≤ (declared.toList.filter fun w => w.major = current.major).length))

/-- The line that is followed has the unreleased versions that are not on an older one. -/
theorem Matrix.Built.mem_releasedLine_iff {declared : SortedSet Version} {current v : Version}
    {p : Policy} {m : Matrix} (h : Built declared current p m) (hretained : 0 < p.retainedMajors)
    (hv : v ∈ m.unreleasedVersions) (hne : v ≠ current) :
    v ∈ (RetainedLines.of declared current p).releasedLine current p ↔
      ¬ OnOlderLine declared current v := by
  have hlines : (RetainedLines.of declared current p).Ordered := RetainedLines.ordered_of
  have hdev := h.mem_unreleasedVersions_iff.1 hv
  have hline : v ∈ (RetainedLines.of declared current p).line v.major :=
    (hdev.isLeaf hlines hne).1
  have hcurrent : current ∈ (RetainedLines.of declared current p).line current.major :=
    (RetainedLines.isLatest_line h.newest (p.retains_self hretained _)).1
  rw [OnOlderLine, ← RetainedLines.line_current hretained]
  by_cases hown : ((RetainedLines.of declared current p).line current.major).length = 1
  · -- the current version is alone, so the version is on the previous major, which is followed
    have hmajor : v.major ≠ current.major := by
      intro hmajor
      obtain ⟨w, hw⟩ := List.length_eq_one_iff.1 hown
      rw [hmajor, hw, List.mem_singleton] at hline
      rw [hw, List.mem_singleton] at hcurrent
      exact hne (hline.trans hcurrent.symm)
    have hprevious := (hdev.major_eq hlines).resolve_left hmajor
    rw [RetainedLines.releasedLine, if_pos hown, hprevious]
    refine iff_of_true hline fun hold => ?_
    omega
  · have hmany : 2 ≤ ((RetainedLines.of declared current p).line current.major).length := by
      have hpos := List.length_pos_of_mem hcurrent
      omega
    rw [RetainedLines.releasedLine, if_neg hown]
    constructor
    · intro hmem hold
      exact hold.1 ((hlines _).major_eq v hmem)
    · intro hnot
      have hmajor : v.major = current.major := by
        by_contra hmajor
        exact hnot ⟨hmajor, hmany⟩
      exact hmajor ▸ hline

/-! ### New minors -/

/-- Whether all other new minors of a list, the current version apart, come before a version. -/
def IsNewestMinor (p : Policy) (versions : List Version) (current v : Version) : Prop :=
  ∀ w ∈ versions, w.revision = 0 → w ≠ current → w ≠ v → p.Precedes w v

instance (p : Policy) (versions : List Version) (current v : Version) :
    Decidable (IsNewestMinor p versions current v) :=
  inferInstanceAs (Decidable
    (∀ w ∈ versions, w.revision = 0 → w ≠ current → w ≠ v → p.Precedes w v))

/-- The last but one of a list is the last of those before the last. -/
theorem getElem?_length_sub_two {α : Type} {xs : List α} (h : xs ≠ []) (x : α) :
    (xs ++ [x])[(xs ++ [x]).length - 2]? = xs.getLast? := by
  have hpos : 0 < xs.length := List.length_pos_of_ne_nil h
  have hplace : (xs ++ [x]).length - 2 = xs.length - 1 := by simp
  rw [hplace, List.getElem?_append_left (by omega), List.getLast?_eq_getElem?]

namespace Project

variable {p : Policy} {versions : List Version} {current v : Version}

theorem mem_newMinors : v ∈ newMinors versions ↔ v ∈ versions ∧ v.revision = 0 := by
  simp [newMinors]

/-- Of versions in release order, the last of which is the current one and a new minor, the last new
minor before it is the newest of the others. -/
theorem isNextMinor_iff (hordered : versions.Pairwise p.Precedes)
    (hcurrent : IsLatest p.Precedes versions current) (hnew : current.revision = 0)
    (hv : v ∈ versions) (hvnew : v.revision = 0) (hne : v ≠ current) :
    IsNextMinor versions v ↔ IsNewestMinor p versions current v := by
  have hpairwise : (newMinors versions).Pairwise p.Precedes := hordered.filter _
  have hlatest : IsLatest p.Precedes (newMinors versions) current :=
    ⟨mem_newMinors.2 ⟨hcurrent.1, hnew⟩, fun w hw => hcurrent.2 w (mem_newMinors.1 hw).1⟩
  obtain ⟨others, hothers⟩ :=
    List.getLast?_eq_some_iff.1 ((getLast?_eq_some_iff_of_pairwise hpairwise).2 hlatest)
  obtain ⟨hothersPairwise, -, hbefore⟩ := List.pairwise_append.1 (hothers ▸ hpairwise)
  have hmem : ∀ w, w ∈ others ↔ w ∈ versions ∧ w.revision = 0 ∧ w ≠ current := by
    intro w
    rw [← and_assoc, ← mem_newMinors, hothers, List.mem_append, List.mem_singleton]
    constructor
    · intro hw
      refine ⟨.inl hw, ?_⟩
      rintro rfl
      exact Policy.not_precedes_self w (hbefore w hw w (List.mem_singleton_self w))
    · rintro ⟨hw, hwne⟩
      exact hw.resolve_right hwne
  have hvothers : v ∈ others := (hmem v).2 ⟨hv, hvnew, hne⟩
  have hlast : IsNextMinor versions v ↔ others.getLast? = some v := by
    rw [IsNextMinor, hothers, getElem?_length_sub_two (List.ne_nil_of_mem hvothers)]
    by_cases hmany : 2 < (others ++ [current]).length
    · simp only [hmany, forall_const]
    · -- with two new minors the version is the only other one
      have hone : others.length = 1 := by
        have hpos := List.length_pos_of_mem hvothers
        rw [List.length_append, List.length_singleton] at hmany
        omega
      obtain ⟨w, rfl⟩ := List.length_eq_one_iff.1 hone
      rw [List.mem_singleton.1 hvothers]
      simp
  rw [hlast, getLast?_eq_some_iff_of_pairwise hothersPairwise]
  constructor
  · intro hnewest w hw hwnew hwne
    exact hnewest.2 w ((hmem w).2 ⟨hw, hwnew, hwne⟩)
  · intro hnewest
    refine ⟨hvothers, fun w hw => ?_⟩
    obtain ⟨hwmem, hwnew, hwne⟩ := (hmem w).1 hw
    exact hnewest w hwmem hwnew hwne

end Project

/-! ### The projects of a matrix -/

namespace Matrix

variable {declared : SortedSet Version} {current : Version} {p : Policy} {m : Matrix}
  {u : Unreleased}

/-- **Projects by what is declared.** An unreleased later revision, the current version apart, falls
to the maintenance project if it is on an older line, and to the bugfix project otherwise. While the
current version is a new minor, another unreleased new minor falls to the minor project if it is the
newest of them, and is staged otherwise. -/
theorem project_eq_of_declared (h : build declared current p = .ok m)
    (hretained : 0 < p.retainedMajors) (hu : u ∈ m.unreleased) (hne : u.version ≠ current) :
    (0 < u.version.revision → u.project =
      if OnOlderLine declared current u.version then .maintenance else .bugfix) ∧
    (u.version.revision = 0 → current.revision = 0 → u.project =
      if IsNewestMinor p m.unreleasedVersions current u.version then .minor else .staged) := by
  have hbuilt := build_eq_ok_iff.1 h
  have hmem : u.version ∈ m.unreleasedVersions := List.mem_map_of_mem hu
  rw [hbuilt.project_eq hu]
  constructor
  · intro hlater
    have hreleased := hbuilt.mem_releasedLine_iff hretained hmem hne
    rw [← MinorLines.contains_of] at hreleased
    split
    · rename_i hold
      exact Project.ofVersion_eq_iff.2 ⟨hne, hlater.ne', fun hmem => hreleased.1 hmem hold⟩
    · rename_i hold
      exact Project.ofVersion_eq_iff.2 ⟨hne, hlater.ne', hreleased.2 hold⟩
  · intro hnew hcurrent
    have hnext := Project.isNextMinor_iff hbuilt.pairwise_unreleasedVersions
      hbuilt.isLatest_unreleasedVersions hcurrent hmem hnew hne
    split
    · rename_i hnewest
      exact Project.ofVersion_eq_iff.2 ⟨hne, hnew, hnext.2 hnewest⟩
    · rename_i hnewest
      exact Project.ofVersion_eq_iff.2 ⟨hne, hnew, fun hmem => hnewest (hnext.1 hmem)⟩

/-- Two lines, each with a later revision below a new minor. -/
def revisionsBelowMinors : SortedSet Version := .ofList
  [.of 4 1 0, .of 4 1 1, .of 4 2 0, .of 5 0 0, .of 5 0 1, .of 5 1 0, .of 5 2 0]

/-- All five projects have a version, and the rules tell which. -/
theorem project_eq_of_declared_revisionsBelowMinors :
    ∃ m, build revisionsBelowMinors (.of 5 2 0) .standard = .ok m ∧
      m.unreleasedVersions = [.of 4 1 1, .of 4 2 0, .of 5 0 1, .of 5 1 0, .of 5 2 0] ∧
      0 < Policy.standard.retainedMajors ∧
      (∃ u ∈ m.unreleased, u.version = .of 4 1 1 ∧ u.project = .maintenance) ∧
      (∃ u ∈ m.unreleased, u.version = .of 4 2 0 ∧ u.project = .staged) ∧
      (∃ u ∈ m.unreleased, u.version = .of 5 0 1 ∧ u.project = .bugfix) ∧
      (∃ u ∈ m.unreleased, u.version = .of 5 1 0 ∧ u.project = .minor) := by
  have h : build revisionsBelowMinors (.of 5 2 0) .standard = .ok _ := rfl
  have hretained : 0 < Policy.standard.retainedMajors := by decide
  refine ⟨_, h, rfl, hretained,
    ⟨{ version := .of 4 1 1, branch := "4.1", project := .maintenance }, by decide, rfl, ?_⟩,
    ⟨{ version := .of 4 2 0, branch := "4.2", project := .staged }, by decide, rfl, ?_⟩,
    ⟨{ version := .of 5 0 1, branch := "5.0", project := .bugfix }, by decide, rfl, ?_⟩,
    ⟨{ version := .of 5 1 0, branch := "5.1", project := .minor }, by decide, rfl, ?_⟩⟩
  · exact (project_eq_of_declared h hretained (by decide) (by decide)).1 (by decide)
  · exact (project_eq_of_declared h hretained (by decide) (by decide)).2 rfl rfl
  · exact (project_eq_of_declared h hretained (by decide) (by decide)).1 (by decide)
  · exact (project_eq_of_declared h hretained (by decide) (by decide)).2 rfl rfl

end Matrix

end ReleaseMatrix
