import ReleaseMatrix.Proofs.Leaves

/-!
# Projects are not shared

A build project has one working copy, so two unreleased versions should not fall to the same
project. The current version has the distribution to itself. Where no revision is left out of the
declarations, one version at most falls to the bugfix project and one to the maintenance project;
and a current version that is a new minor leaves one version at most to the minor project.

Above a version in development its line has new minors only (`UnderNewMinors`): a minor that is
alone has nothing but its first version, and the cascade goes down only past such minors. So a line
has at most one version in development that is a later revision. The bugfix project takes those of
the line whose minors are followed, the maintenance project those of the other line.
-/

namespace ReleaseMatrix

/-! ### Revisions without gaps -/

/-- Every version but a new minor comes with the revision before it. -/
def Unbroken (versions : List Version) : Prop :=
  ∀ v ∈ versions, v.revision ≠ 0 → ∃ w ∈ versions,
    w.major = v.major ∧ w.minor = v.minor ∧ w.revision + 1 = v.revision

instance (versions : List Version) : Decidable (Unbroken versions) :=
  inferInstanceAs (Decidable (∀ v ∈ versions, v.revision ≠ 0 → ∃ w ∈ versions,
    w.major = v.major ∧ w.minor = v.minor ∧ w.revision + 1 = v.revision))

/-- The single version of a minor is a new minor. -/
theorem Unbroken.revision_eq_zero {line : List Version} {v : Version} (h : Unbroken line)
    (hv : v ∈ line) (alone : IsAlone line v.minor) : v.revision = 0 := by
  by_contra hne
  obtain ⟨w, hw, -, hminor, hrevision⟩ := h v hv hne
  have heq : w = v := alone.unique ⟨hw, hminor⟩ ⟨hv, rfl⟩
  rw [heq] at hrevision
  omega

theorem RetainedLines.unbroken_line_of {declared : SortedSet Version} {current : Version}
    {p : Policy} (h : Unbroken declared.toList) (major : Nat) :
    Unbroken ((of declared current p).line major) := by
  intro v hv hrevision
  obtain ⟨⟨hdeclared, hretains⟩, hmajor⟩ := mem_line_of.1 hv
  obtain ⟨w, hw, hwmajor, hminor, hnext⟩ := h v hdeclared hrevision
  refine ⟨w, mem_line_of.2 ⟨⟨hw, ?_⟩, hwmajor.trans hmajor⟩, hwmajor, hminor, hnext⟩
  rw [hwmajor]
  exact hretains

/-! ### Later revisions on one line -/

/-- A leaf of a line with nothing but new minors above it. -/
structure UnderNewMinors (line : List Version) (v : Version) : Prop where
  /-- The version is a leaf. -/
  leaf : IsLeaf line v
  /-- The versions on greater minors are new minors. -/
  new : ∀ w ∈ line, v.minor < w.minor → w.revision = 0

/-- At most one version under new minors is not a new minor itself. -/
theorem UnderNewMinors.unique {line : List Version} {v w : Version} (hv : UnderNewMinors line v)
    (hw : UnderNewMinors line w) (hvr : v.revision ≠ 0) (hwr : w.revision ≠ 0) : v = w := by
  rcases Nat.lt_trichotomy v.minor w.minor with hlt | heq | hgt
  · exact absurd (hv.new w hw.leaf.1 hlt) hwr
  · exact hv.leaf.unique hw.leaf heq
  · exact absurd (hw.new v hv.leaf.1 hgt) hvr

namespace IsLine

variable {major : Nat} {line : List Version} {v : Version}

/-- The minors above a version in development are alone. -/
theorem underNewMinors_of_developed (h : IsLine major line) (hunbroken : Unbroken line)
    (hv : Developed line v) : UnderNewMinors line v := by
  cases hv with
  | tip ht =>
    refine ⟨ht.isLeaf, fun w hw hlt => ?_⟩
    exact absurd (h.minor_le ht hw) (Nat.not_le.2 hlt)
  | @below t _ ht alone leaf hv =>
    refine ⟨leaf, fun w hw hlt => ?_⟩
    have hle : w.minor ≤ t.minor := h.minor_le ht hw
    have hminor : t.minor = w.minor := by omega
    exact hunbroken.revision_eq_zero hw (hminor ▸ alone)
  | @staged t _ ht alone alone' leaf hv =>
    refine ⟨leaf, fun w hw hlt => ?_⟩
    have hle : w.minor ≤ t.minor := h.minor_le ht hw
    have hminor : t.minor = w.minor ∨ v.minor + 1 = w.minor := by omega
    rcases hminor with hminor | hminor
    · exact hunbroken.revision_eq_zero hw (hminor ▸ alone)
    · exact hunbroken.revision_eq_zero hw (hminor ▸ alone')

/-- The minor above the newest revision on the previous major is a new one, if there is one. -/
theorem underNewMinors_of_developedBefore (h : IsLine major line)
    (hv : DevelopedBefore line v) : UnderNewMinors line v := by
  cases hv with
  | tip ht =>
    refine ⟨ht.isLeaf, fun w hw hlt => ?_⟩
    exact absurd (h.minor_le ht hw) (Nat.not_le.2 hlt)
  | @below t _ ht new leaf hv =>
    refine ⟨leaf, fun w hw hlt => ?_⟩
    have hle : w.minor ≤ t.minor := h.minor_le ht hw
    have hwt : w ≤ t := ht.isLeaf.2 w hw (by omega)
    have hmajor : w.major = t.major := (h.major_eq w hw).trans (h.major_eq t ht.1).symm
    rcases Version.le_def.1 hwt with hwt | rfl
    · rw [Version.lt_def] at hwt
      omega
    · exact new

end IsLine

namespace RetainedLines

variable {declared : SortedSet Version} {current v w : Version} {p : Policy}

/-- One version at most of those in development on a major, the current one apart, is a later
revision. -/
theorem InDevelopment.eq_of_revision_ne_zero (hunbroken : Unbroken declared.toList)
    (hv : (of declared current p).InDevelopment current p v) (hvne : v ≠ current)
    (hw : (of declared current p).InDevelopment current p w) (hwne : w ≠ current)
    (hmajor : v.major = w.major) (hvr : v.revision ≠ 0) (hwr : w.revision ≠ 0) : v = w := by
  have hlines : (of declared current p).Ordered := ordered_of
  have hunder : ∀ u, (of declared current p).InDevelopment current p u → u ≠ current →
      UnderNewMinors ((of declared current p).line u.major) u := by
    intro u hu hne
    rcases hu.developed_or hlines hne with hu | hu
    · exact (hlines _).underNewMinors_of_developed (unbroken_line_of hunbroken _) hu
    · exact (hlines _).underNewMinors_of_developedBefore hu
  have hunderw := hunder w hw hwne
  rw [← hmajor] at hunderw
  exact (hunder v hv hvne).unique hunderw hvr hwr

/-- Away from the line that is followed, only the previous major has versions in development. -/
theorem InDevelopment.previousMajor?_eq {lines : RetainedLines} (hlines : lines.Ordered)
    (h : lines.InDevelopment current p v) (hne : v ≠ current)
    (hnot : v ∉ lines.releasedLine current p) : p.previousMajor? current.major = some v.major := by
  cases h with
  | current => exact absurd rfl hne
  | before _ _ hprevious hv => rw [hprevious, (hlines _).major_eq v hv.isLeaf.1]
  | released _ hv => exact absurd hv.isLeaf.1 hnot

end RetainedLines

/-! ### Which project builds a version -/

namespace Project

variable {v w current : Version} {unreleased : List Version} {released : MinorLines}
  {project : Project}

/-- The new minors of a list. -/
def newMinors (versions : List Version) : List Version := versions.filter fun w => w.revision = 0

/-- Whether a new minor is followed by exactly one other, if there are more than two. -/
def IsNextMinor (versions : List Version) (v : Version) : Prop :=
  2 < (newMinors versions).length → (newMinors versions)[(newMinors versions).length - 2]? = some v

/-- What a project builds, among the unreleased versions and with the released lines. -/
def Builds (current : Version) (unreleased : List Version) (released : MinorLines) (v : Version) :
    Project → Prop
  | distribution => v = current
  | minor => v ≠ current ∧ v.revision = 0 ∧ IsNextMinor unreleased v
  | staged => v ≠ current ∧ v.revision = 0 ∧ ¬ IsNextMinor unreleased v
  | bugfix => v ≠ current ∧ v.revision ≠ 0 ∧ released.contains v
  | maintenance => v ≠ current ∧ v.revision ≠ 0 ∧ ¬ released.contains v

theorem ofVersion_eq_iff :
    ofVersion v current unreleased released = project ↔
      Builds current unreleased released v project := by
  simp only [ofVersion]
  cases project <;> simp only [Builds, IsNextMinor, newMinors] <;> split_ifs <;> simp_all

/-- A current version that is a new minor leaves one version at most to the minor project. -/
theorem eq_of_builds_minor (hcurrent : current ∈ unreleased) (hnew : current.revision = 0)
    (hv : v ∈ unreleased) (hvp : Builds current unreleased released v minor)
    (hw : w ∈ unreleased) (hwp : Builds current unreleased released w minor) : v = w := by
  obtain ⟨hvne, hvnew, hvnext⟩ := hvp
  obtain ⟨hwne, hwnew, hwnext⟩ := hwp
  by_cases hmany : 2 < (newMinors unreleased).length
  · exact Option.some.inj ((hvnext hmany).symm.trans (hwnext hmany))
  · -- otherwise the two and the current version are three new minors
    by_contra hne
    have hnodup : [current, v, w].Nodup := by simp [hne, Ne.symm hvne, Ne.symm hwne]
    have hsubset : [current, v, w] ⊆ newMinors unreleased := by
      simp [newMinors, hcurrent, hnew, hv, hvnew, hw, hwnew]
    exact hmany (hnodup.subperm hsubset).length_le

end Project

/-! ### The unreleased versions of a project -/

namespace Matrix

variable {declared : SortedSet Version} {current : Version} {p : Policy} {m : Matrix}
  {u : Unreleased} {project : Project}

/-- The unreleased versions that a project builds. -/
def builtBy (m : Matrix) (project : Project) : List Unreleased :=
  m.unreleased.filter fun u => u.project = project

/-- The projects are given by the line whose minors are followed, also for a first release, which
has no released lines but is the only unreleased version. -/
theorem Built.project_eq (h : Built declared current p m) (hu : u ∈ m.unreleased) :
    u.project = Project.ofVersion u.version current m.unreleasedVersions
      (.of ((RetainedLines.of declared current p).releasedLine current p)) := by
  obtain ⟨released, -, hreleased, hplaced⟩ := placements_eq_ok_iff.1 h.placed
  rw [(hplaced u hu).1]
  by_cases hcurrent : u.version = current
  · exact (if_pos hcurrent).trans (if_pos hcurrent).symm
  · have hboot : current ≠ p.bootstrapVersion := fun hboot =>
      hcurrent ((RetainedLines.inDevelopment_iff_of_bootstrap hboot).1 (h.inDevelopment hu))
    rw [releasedLines_eq_ok RetainedLines.ordered_of h.unreleased_eq hboot] at hreleased
    rw [← Except.ok.inj hreleased]
    rfl

theorem Built.mem_builtBy (h : Built declared current p m) :
    u ∈ m.builtBy project ↔ u ∈ m.unreleased ∧
      Project.Builds current m.unreleasedVersions
        (.of ((RetainedLines.of declared current p).releasedLine current p)) u.version project := by
  rw [builtBy, List.mem_filter, decide_eq_true_eq]
  refine and_congr_right fun hu => ?_
  rw [h.project_eq hu, Project.ofVersion_eq_iff]

/-- A project builds one version at most if all its versions are the same. -/
theorem Built.length_builtBy_le_one (h : Built declared current p m)
    (hsame : ∀ u ∈ m.builtBy project, ∀ w ∈ m.builtBy project, u.version = w.version) :
    (m.builtBy project).length ≤ 1 := by
  have hnodup : ((m.builtBy project).map (·.version)).Nodup :=
    h.nodup_unreleasedVersions.sublist (List.filter_sublist.map Unreleased.version)
  revert hsame hnodup
  generalize m.builtBy project = us
  intro hsame hnodup
  match us with
  | [] => exact Nat.zero_le 1
  | [_] => exact Nat.le_refl 1
  | u :: w :: rest =>
    have heq : u.version = w.version := hsame u (by simp) w (by simp)
    simp [heq] at hnodup

/-! ### At most one version -/

/-- The distribution builds the current version, from the trunk, and nothing else. -/
theorem Built.builtBy_distribution (h : Built declared current p m) :
    m.builtBy .distribution =
      [{ version := current, branch := p.trunkBranch, project := .distribution }] := by
  have hversion : ∀ u ∈ m.builtBy .distribution, u.version = current :=
    fun u hu => (h.mem_builtBy.1 hu).2
  have hlength : (m.builtBy .distribution).length ≤ 1 :=
    h.length_builtBy_le_one fun u hu w hw => (hversion u hu).trans (hversion w hw).symm
  obtain ⟨u, hu, hcurrent⟩ := List.mem_map.1 h.isLatest_unreleasedVersions.1
  have hmem : u ∈ m.builtBy .distribution := h.mem_builtBy.2 ⟨hu, hcurrent⟩
  have hproject : u.project = .distribution := of_decide_eq_true (List.mem_filter.1 hmem).2
  have hbranch : p.trunkBranch = u.branch := by
    have hok := h.branch_eq hu
    rw [hproject] at hok
    exact Except.ok.inj hok
  obtain ⟨w, hw⟩ :=
    List.length_eq_one_iff.1 (Nat.le_antisymm hlength (List.length_pos_of_mem hmem))
  rw [hw, List.mem_singleton] at hmem
  rw [hw, ← hmem, hbranch, ← hcurrent, ← hproject]

/-- A project for later revisions of one major builds one version at most. -/
theorem Built.length_builtBy_le_one_of_major (h : Built declared current p m)
    (hunbroken : Unbroken declared.toList)
    (hlater : ∀ u ∈ m.builtBy project, u.version ≠ current ∧ u.version.revision ≠ 0)
    (hmajor : ∀ u ∈ m.builtBy project, ∀ w ∈ m.builtBy project,
      u.version.major = w.version.major) : (m.builtBy project).length ≤ 1 := by
  refine h.length_builtBy_le_one fun u hu w hw => ?_
  obtain ⟨hune, hur⟩ := hlater u hu
  obtain ⟨hwne, hwr⟩ := hlater w hw
  have hudev := h.inDevelopment (h.mem_builtBy.1 hu).1
  have hwdev := h.inDevelopment (h.mem_builtBy.1 hw).1
  exact hudev.eq_of_revision_ne_zero hunbroken hune hwdev hwne (hmajor u hu w hw) hur hwr

theorem Built.length_builtBy_bugfix_le_one (h : Built declared current p m)
    (hunbroken : Unbroken declared.toList) : (m.builtBy .bugfix).length ≤ 1 := by
  obtain ⟨major, hline⟩ :
      ∃ major, IsLine major ((RetainedLines.of declared current p).releasedLine current p) :=
    RetainedLines.ordered_of.isLine_releasedLine
  have hmajor : ∀ u ∈ m.builtBy .bugfix, u.version.major = major := by
    intro u hu
    obtain ⟨-, -, -, hcontains⟩ := h.mem_builtBy.1 hu
    exact hline.major_eq _ (MinorLines.contains_of.1 hcontains)
  refine h.length_builtBy_le_one_of_major hunbroken (fun u hu => ?_) fun u hu w hw => ?_
  · obtain ⟨-, hne, hrevision, -⟩ := h.mem_builtBy.1 hu
    exact ⟨hne, hrevision⟩
  · exact (hmajor u hu).trans (hmajor w hw).symm

theorem Built.length_builtBy_maintenance_le_one (h : Built declared current p m)
    (hunbroken : Unbroken declared.toList) : (m.builtBy .maintenance).length ≤ 1 := by
  have hmajor : ∀ u ∈ m.builtBy .maintenance,
      p.previousMajor? current.major = some u.version.major := by
    intro u hu
    obtain ⟨hu, hne, -, hcontains⟩ := h.mem_builtBy.1 hu
    exact (h.inDevelopment hu).previousMajor?_eq RetainedLines.ordered_of hne
      fun hmem => hcontains (MinorLines.contains_of.2 hmem)
  refine h.length_builtBy_le_one_of_major hunbroken (fun u hu => ?_) fun u hu w hw => ?_
  · obtain ⟨-, hne, hrevision, -⟩ := h.mem_builtBy.1 hu
    exact ⟨hne, hrevision⟩
  · exact Option.some.inj ((hmajor u hu).symm.trans (hmajor w hw))

theorem Built.length_builtBy_minor_le_one (h : Built declared current p m)
    (hnew : current.revision = 0) : (m.builtBy .minor).length ≤ 1 := by
  refine h.length_builtBy_le_one fun u hu w hw => ?_
  obtain ⟨hu, hubuilds⟩ := h.mem_builtBy.1 hu
  obtain ⟨hw, hwbuilds⟩ := h.mem_builtBy.1 hw
  exact Project.eq_of_builds_minor h.isLatest_unreleasedVersions.1 hnew
    (List.mem_map_of_mem hu) hubuilds (List.mem_map_of_mem hw) hwbuilds

/-- **Projects are not shared.** The distribution builds the current version from the trunk and
nothing else. If no revision is left out of the declarations, the bugfix and the maintenance project
build one version at most each; and if the current version is a new minor, so does the minor
project. -/
theorem length_builtBy_project_le_one (h : build declared current p = .ok m)
    (hunbroken : Unbroken declared.toList) :
    m.builtBy .distribution =
      [{ version := current, branch := p.trunkBranch, project := .distribution }] ∧
    (m.builtBy .bugfix).length ≤ 1 ∧ (m.builtBy .maintenance).length ≤ 1 ∧
    (current.revision = 0 → (m.builtBy .minor).length ≤ 1) := by
  have hbuilt := build_eq_ok_iff.1 h
  exact ⟨hbuilt.builtBy_distribution, hbuilt.length_builtBy_bugfix_le_one hunbroken,
    hbuilt.length_builtBy_maintenance_le_one hunbroken, hbuilt.length_builtBy_minor_le_one⟩

/-- Two lines, both with a revision behind a released minor and a new minor above it. -/
def parallelRevisions : SortedSet Version := .ofList
  [.of 4 2 0, .of 4 2 1, .of 4 3 0, .of 5 0 0, .of 5 0 1, .of 5 1 0]

/-- Each of the four projects has the one version that it may have. -/
theorem length_builtBy_project_le_one_parallelRevisions :
    ∃ m, build parallelRevisions (.of 5 1 0) .standard = .ok m ∧
      m.unreleased.map (fun u => (u.version, u.project)) = [(.of 4 2 1, .maintenance),
        (.of 4 3 0, .minor), (.of 5 0 1, .bugfix), (.of 5 1 0, .distribution)] ∧
      Unbroken parallelRevisions.toList ∧ (m.builtBy .bugfix).length ≤ 1 ∧
      (m.builtBy .maintenance).length ≤ 1 ∧ (m.builtBy .minor).length ≤ 1 := by
  have hunbroken : Unbroken parallelRevisions.toList := by decide
  refine ⟨_, rfl, rfl, hunbroken, ?_⟩
  have h : build parallelRevisions (.of 5 1 0) .standard = .ok _ := rfl
  obtain ⟨-, hbugfix, hmaintenance, hminor⟩ := length_builtBy_project_le_one h hunbroken
  exact ⟨hbugfix, hmaintenance, hminor rfl⟩

end Matrix

end ReleaseMatrix
