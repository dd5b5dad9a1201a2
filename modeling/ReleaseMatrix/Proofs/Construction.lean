import ReleaseMatrix.Matrix.Basic
import ReleaseMatrix.Proofs.Development

/-!
# When a matrix is made

`Refusal` lists the reasons for which no matrix is made, in terms of the declared versions alone:
which of them is the newest, which the policy keeps, and how many majors those have. The stages of
the construction are taken in turn. The last ones, which follow the released lines once more and
name a branch for every unreleased version, never fail: every unreleased version but the current one
is on a kept line.

## What is proved

* `build_eq_ok_iff`: what a matrix holds that was made.
* `build_eq_error`, `exists_build`: it is refused for the listed reasons, and made otherwise.
-/

namespace ReleaseMatrix

/-- The majors of the kept versions, ascending. -/
def Policy.KeptMajors (p : Policy) (declared : SortedSet Version) (current : Version)
    (majors : List Nat) : Prop :=
  majors.Pairwise (· < ·) ∧
    ∀ major, major ∈ majors ↔ ∃ v, p.Keeps declared current v ∧ v.major = major

/-! ### The stages -/

namespace RetainedLines

variable {lines : RetainedLines} {current v : Version} {p : Policy}

/-- A version in development that is not the current one is so on the line of its major. -/
theorem InDevelopment.developed_or (hlines : lines.Ordered) (h : lines.InDevelopment current p v)
    (hne : v ≠ current) :
    Developed (lines.line v.major) v ∨ DevelopedBefore (lines.line v.major) v := by
  have hmajor : ∀ major, IsLeaf (lines.line major) v → v.major = major :=
    fun major hv => (hlines major).major_eq v hv.1
  cases h with
  | current => exact absurd rfl hne
  | before _ _ _ hv =>
    rw [hmajor _ hv.isLeaf]
    exact .inr hv
  | released _ hv =>
    rw [releasedLine] at hv
    split at hv
    · split at hv
      · exact absurd hv.isLeaf.1 List.not_mem_nil
      · rw [hmajor _ hv.isLeaf]
        exact .inl hv
    · rw [hmajor _ hv.isLeaf]
      exact .inl hv

/-- A version in development that is not the current one is on a line. -/
theorem InDevelopment.isLeaf (hlines : lines.Ordered) (h : lines.InDevelopment current p v)
    (hne : v ≠ current) : IsLeaf (lines.line v.major) v :=
  (h.developed_or hlines hne).elim Developed.isLeaf DevelopedBefore.isLeaf

/-- A branch has no name only for the minor project, on a line without versions. -/
theorem branch_eq_error_iff {trunk : String} {project : Project} {e : MatrixError} :
    lines.branch trunk v project = .error e ↔
      project = .minor ∧ e = .missingLine v.major ∧ lines.line v.major = [] := by
  cases project with
  | minor =>
    rw [branch, ← newest_eq_error_iff]
    cases lines.newest v.major with
    | error e' => simp
    | ok t => simp [pure, Except.pure]
  | distribution => simp [branch]
  | staged => simp [branch]
  | bugfix => simp [branch]
  | maintenance => simp [branch]

theorem exists_branch {trunk : String} {project : Project}
    (h : project = .distribution ∨ lines.line v.major ≠ []) :
    ∃ branch, lines.branch trunk v project = .ok branch := by
  cases hbranch : lines.branch trunk v project with
  | ok branch => exact ⟨branch, rfl⟩
  | error e =>
    obtain ⟨rfl, -, hnil⟩ := branch_eq_error_iff.1 hbranch
    exact absurd hnil (h.resolve_left (by simp))

end RetainedLines

namespace Matrix

variable {lines : RetainedLines} {current : Version} {p : Policy}

theorem checkMajorCount_eq_error_iff {e : MatrixError} :
    checkMajorCount lines current p = .error e ↔
      (current.minor ≠ 0 ∧ current.revision ≠ 0 ∧
        lines.majors.length ≠ p.expectedMajorCount current.major) ∧
      e = .majorCount (p.expectedMajorCount current.major) lines.majors := by
  rw [checkMajorCount]
  split
  · rename_i h
    rw [Except.error.injEq]
    exact ⟨fun he => ⟨h, he.symm⟩, fun he => he.2.symm⟩
  · rename_i h
    constructor
    · intro he
      cases he
    · rintro ⟨hcount, -⟩
      exact absurd hcount h

/-- Behind the first release the released lines are the minors of the line that is followed. -/
theorem releasedLines_eq_ok (hlines : lines.Ordered) {versions : List Version}
    (h : lines.unreleased current p = .ok versions) (hboot : current ≠ p.bootstrapVersion) :
    releasedLines lines current p = .ok (.of (lines.releasedLine current p)) := by
  have hlacks := (hlines.unreleased_eq_ok_iff.1 h).1
  rw [releasedLines, if_neg hboot]
  exact RetainedLines.released_eq_ok fun previous hown hprevious hmissing =>
    hlacks previous ⟨hboot, hprevious, hmissing, .inr hown⟩

/-- If the unreleased versions are known, so are the released lines. -/
theorem exists_releasedLines (hlines : lines.Ordered) {versions : List Version}
    (h : lines.unreleased current p = .ok versions) :
    ∃ released, releasedLines lines current p = .ok released := by
  by_cases hboot : current = p.bootstrapVersion
  · exact ⟨_, if_pos hboot⟩
  · exact ⟨_, releasedLines_eq_ok hlines h hboot⟩

/-- If the unreleased versions are known, each of them has a branch. -/
theorem exists_branch_of_unreleased (hlines : lines.Ordered) {versions : List Version}
    (h : lines.unreleased current p = .ok versions) (released : MinorLines) {v : Version}
    (hv : v ∈ versions) : ∃ branch, lines.branch p.trunkBranch v
      (Project.ofVersion v current versions released) = .ok branch := by
  apply RetainedLines.exists_branch
  by_cases hne : v = current
  · exact .inl (if_pos hne)
  · have hdev := ((hlines.unreleased_eq_ok_iff.1 h).2.2 v).1 hv
    exact .inr (List.ne_nil_of_mem (hdev.isLeaf hlines hne).1)

/-- One placement, among fixed unreleased versions and released lines. -/
theorem placement_eq_ok_iff {versions : List Version} {released : MinorLines} {v : Version}
    {u : Unreleased} :
    (do
      let branch ← lines.branch p.trunkBranch v (Project.ofVersion v current versions released)
      return ({ version := v, branch, project := Project.ofVersion v current versions released } :
        Unreleased)) = Except.ok u ↔
    u.version = v ∧ u.project = Project.ofVersion u.version current versions released ∧
      lines.branch p.trunkBranch u.version u.project = .ok u.branch := by
  obtain ⟨v', branch', project'⟩ := u
  constructor
  · intro h
    cases hbranch :
        lines.branch p.trunkBranch v (Project.ofVersion v current versions released) with
    | error e =>
      rw [hbranch] at h
      cases h
    | ok branch =>
      rw [hbranch] at h
      cases h
      exact ⟨rfl, rfl, hbranch⟩
  · rintro ⟨rfl, hproject, hbranch⟩
    dsimp only at hproject hbranch ⊢
    subst hproject
    rw [hbranch]
    rfl

/-- The placements are the unreleased versions, each with its project and its branch. -/
theorem placements_eq_ok_iff {us : List Unreleased} :
    placements lines current p = .ok us ↔
      ∃ released, lines.unreleased current p = .ok (us.map (·.version)) ∧
        releasedLines lines current p = .ok released ∧
        ∀ u ∈ us, u.project = Project.ofVersion u.version current (us.map (·.version)) released ∧
          lines.branch p.trunkBranch u.version u.project = .ok u.branch := by
  rw [placements]
  cases hversions : lines.unreleased current p with
  | error e => simp
  | ok versions =>
    cases hreleased : releasedLines lines current p with
    | error e => simp
    | ok released =>
      rw [ok_bind, ok_bind, mapM_eq_ok_iff_of_view fun _ _ => placement_eq_ok_iff]
      constructor
      · rintro ⟨rfl, hall⟩
        exact ⟨released, rfl, rfl, hall⟩
      · rintro ⟨_, hmap, hsame, hall⟩
        cases hmap
        cases hsame
        exact ⟨rfl, hall⟩

theorem exists_placements (hlines : lines.Ordered) {versions : List Version}
    (h : lines.unreleased current p = .ok versions) :
    ∃ us, placements lines current p = .ok us := by
  obtain ⟨released, hreleased⟩ := exists_releasedLines hlines h
  rw [placements, h, ok_bind, hreleased, ok_bind]
  apply exists_mapM_eq_ok
  intro v hv
  obtain ⟨branch, hbranch⟩ := exists_branch_of_unreleased hlines h released hv
  refine ⟨{ version := v, branch, project := Project.ofVersion v current versions released }, ?_⟩
  simp only [hbranch, ok_bind]
  rfl

/-! ### The reasons for a refusal -/

/-- Behind a first minor and a first revision the number of kept majors is not the expected one. -/
def Miscounted (declared : SortedSet Version) (current : Version) (p : Policy) : Prop :=
  current.minor ≠ 0 ∧ current.revision ≠ 0 ∧ ∃ majors, p.KeptMajors declared current majors ∧
    majors.length ≠ p.expectedMajorCount current.major

/-- No version of a major is kept, although the unreleased versions need that line: the current
version is not the first release and follows that major, and it is on another major than the first
release or the only kept version on its own. -/
def Lacks (declared : SortedSet Version) (current : Version) (p : Policy) (major : Nat) : Prop :=
  current ≠ p.bootstrapVersion ∧ p.previousMajor? current.major = some major ∧
    (∀ v, p.Keeps declared current v → v.major ≠ major) ∧
      (current.major ≠ p.bootstrapVersion.major ∨
        ∃! v, p.Keeps declared current v ∧ v.major = current.major)

/-- Why no matrix is made. -/
inductive Refusal (declared : SortedSet Version) (expected : Version) (p : Policy) :
    MatrixError → Prop
  /-- No version is declared. -/
  | noVersions (h : ∀ v, v ∉ declared) : Refusal declared expected p .noVersions
  /-- The newest declared version is not the expected one. -/
  | currentMismatch {newest : Version} (h : IsLatest p.Precedes declared.toList newest)
      (hne : newest ≠ expected) : Refusal declared expected p (.currentMismatch newest expected)
  /-- The number of kept majors is not the expected one. -/
  | majorCount {majors : List Nat} (h : IsLatest p.Precedes declared.toList expected)
      (count : Miscounted declared expected p) (hmajors : p.KeptMajors declared expected majors) :
      Refusal declared expected p (.majorCount (p.expectedMajorCount expected.major) majors)
  /-- A major line that is needed has no kept version. -/
  | missingLine {major : Nat} (h : IsLatest p.Precedes declared.toList expected)
      (count : ¬ Miscounted declared expected p) (lacks : Lacks declared expected p major) :
      Refusal declared expected p (.missingLine major)

variable {declared : SortedSet Version} {majors : List Nat} {major : Nat} {expected : Version}

theorem keptMajors_iff : p.KeptMajors declared current majors ↔
    majors = (RetainedLines.of declared current p).majors := by
  have hkept : p.KeptMajors declared current (RetainedLines.of declared current p).majors :=
    ⟨Table.keys_ascending _, fun _ => RetainedLines.mem_majors_of⟩
  constructor
  · rintro ⟨hascending, hmem⟩
    exact eq_of_pairwise_of_mem_iff hascending hkept.1 fun M => (hmem M).trans (hkept.2 M).symm
  · rintro rfl
    exact hkept

theorem miscounted_iff : Miscounted declared current p ↔ current.minor ≠ 0 ∧ current.revision ≠ 0 ∧
    (RetainedLines.of declared current p).majors.length ≠
      p.expectedMajorCount current.major := by
  simp only [Miscounted, keptMajors_iff, exists_eq_left]

theorem lacks_iff : Lacks declared current p major ↔
    (RetainedLines.of declared current p).Lacks current p major := by
  have hlines : (RetainedLines.of declared current p).Ordered := RetainedLines.ordered_of
  have hown := length_eq_one_iff_existsUnique (hlines current.major).nodup
  simp only [RetainedLines.mem_line_of] at hown
  simp only [Lacks, RetainedLines.Lacks, hown, RetainedLines.line_of_eq_nil_iff]

/-! ### The construction -/

/-- The matrix of a current version, given its placements. -/
def ofPlacements (declared : SortedSet Version) (current : Version) (p : Policy)
    (unreleased : List Unreleased) : Matrix where
  current := current
  policy := p
  lines := .of declared current p
  unreleased := unreleased
  indexCompatible := (RetainedLines.of declared current p).indexCompatible current p
  wireCompatible := (RetainedLines.of declared current p).wireCompatible current p

/-- What a matrix holds that was made for a current version. -/
structure Built (declared : SortedSet Version) (current : Version) (p : Policy) (m : Matrix) :
    Prop where
  /-- The current version is the newest one that is declared. -/
  newest : IsLatest p.Precedes declared.toList current
  /-- The number of kept majors is not refused. -/
  counted : ¬ Miscounted declared current p
  /-- The unreleased versions have their projects and branches. -/
  placed : placements (.of declared current p) current p = .ok m.unreleased
  /-- Everything else is as it was computed. -/
  eq : m = ofPlacements declared current p m.unreleased

theorem build_of_empty (h : ∀ v, v ∉ declared) :
    build declared expected p = .error .noVersions := by
  have hnone : p.newest? declared.toList = none :=
    p.newest?_eq_none_iff.2 (List.eq_nil_iff_forall_not_mem.2 h)
  rw [build, hnone]
  rfl

theorem build_of_mismatch {newest : Version} (h : IsLatest p.Precedes declared.toList newest)
    (hne : newest ≠ expected) :
    build declared expected p = .error (.currentMismatch newest expected) := by
  rw [build, p.newest?_eq_some_iff.2 h]
  exact if_pos hne

/-- With the expected version as the newest one, only the later stages are left. -/
theorem build_of_newest (h : IsLatest p.Precedes declared.toList current) :
    build declared current p = (do
      checkMajorCount (.of declared current p) current p
      let unreleased ← placements (.of declared current p) current p
      return ofPlacements declared current p unreleased) := by
  rw [build, p.newest?_eq_some_iff.2 h]
  exact if_neg (by simp)

theorem checkMajorCount_of_counted (h : ¬ Miscounted declared current p) :
    checkMajorCount (.of declared current p) current p = .ok () :=
  if_neg fun hcount => h (miscounted_iff.2 hcount)

/-- A matrix that is made is what the stages give. -/
theorem build_eq_ok_iff {m : Matrix} : build declared expected p = .ok m ↔
    Built declared expected p m := by
  constructor
  · intro h
    cases hnewest : p.newest? declared.toList with
    | none =>
      rw [build, hnewest] at h
      cases h
    | some newest =>
      have hlatest := p.newest?_eq_some_iff.1 hnewest
      by_cases hne : newest = expected
      · subst hne
        rw [build_of_newest hlatest] at h
        have hcount : ¬ Miscounted declared newest p := by
          intro hcount
          rw [checkMajorCount_eq_error_iff.2 ⟨miscounted_iff.1 hcount, rfl⟩] at h
          cases h
        rw [checkMajorCount_of_counted hcount, ok_bind] at h
        cases hplaced : placements (.of declared newest p) newest p with
        | error e =>
          rw [hplaced] at h
          cases h
        | ok us =>
          rw [hplaced] at h
          cases h
          exact ⟨hlatest, hcount, hplaced, rfl⟩
      · rw [build_of_mismatch hlatest hne] at h
        cases h
  · intro h
    rw [build_of_newest h.newest, checkMajorCount_of_counted h.counted, ok_bind, h.placed, ok_bind,
      h.eq]
    rfl

namespace Built

variable {m : Matrix}

theorem current_eq (h : Built declared current p m) : m.current = current := by
  rw [h.eq, ofPlacements]

theorem policy_eq (h : Built declared current p m) : m.policy = p := by
  rw [h.eq, ofPlacements]

theorem lines_eq (h : Built declared current p m) : m.lines = .of declared current p := by
  rw [h.eq, ofPlacements]

theorem indexCompatible_eq (h : Built declared current p m) :
    m.indexCompatible = (RetainedLines.of declared current p).indexCompatible current p := by
  rw [h.eq, ofPlacements]

theorem wireCompatible_eq (h : Built declared current p m) :
    m.wireCompatible = (RetainedLines.of declared current p).wireCompatible current p := by
  rw [h.eq, ofPlacements]

theorem unreleased_eq (h : Built declared current p m) :
    (RetainedLines.of declared current p).unreleased current p = .ok m.unreleasedVersions := by
  obtain ⟨_, hversions, -⟩ := placements_eq_ok_iff.1 h.placed
  exact hversions

/-- The unreleased versions are in release order. -/
theorem pairwise_unreleasedVersions (h : Built declared current p m) :
    m.unreleasedVersions.Pairwise p.Precedes :=
  (RetainedLines.ordered_of.unreleased_eq_ok_iff.1 h.unreleased_eq).2.1

/-- No version is listed twice. -/
theorem nodup_unreleasedVersions (h : Built declared current p m) : m.unreleasedVersions.Nodup :=
  nodup_of_pairwise h.pairwise_unreleasedVersions

/-- The unreleased versions are those in development. -/
theorem mem_unreleasedVersions_iff (h : Built declared current p m) {v : Version} :
    v ∈ m.unreleasedVersions ↔ (RetainedLines.of declared current p).InDevelopment current p v :=
  (RetainedLines.ordered_of.unreleased_eq_ok_iff.1 h.unreleased_eq).2.2 v

theorem inDevelopment (h : Built declared current p m) {u : Unreleased} (hu : u ∈ m.unreleased) :
    (RetainedLines.of declared current p).InDevelopment current p u.version :=
  h.mem_unreleasedVersions_iff.1 (List.mem_map_of_mem hu)

/-- Every unreleased version has the branch of its project. -/
theorem branch_eq (h : Built declared current p m) {u : Unreleased} (hu : u ∈ m.unreleased) :
    (RetainedLines.of declared current p).branch p.trunkBranch u.version u.project =
      .ok u.branch := by
  obtain ⟨_, -, -, hplaced⟩ := placements_eq_ok_iff.1 h.placed
  exact (hplaced u hu).2

theorem not_lacks (h : Built declared current p m) {major : Nat} :
    ¬ Lacks declared current p major := by
  rw [lacks_iff]
  exact (RetainedLines.ordered_of.unreleased_eq_ok_iff.1 h.unreleased_eq).1 major

end Built

/-- Every reason refuses the matrix, with its own error. -/
theorem build_eq_error {error : MatrixError} (h : Refusal declared expected p error) :
    build declared expected p = .error error := by
  cases h with
  | noVersions h => exact build_of_empty h
  | currentMismatch h hne => exact build_of_mismatch h hne
  | majorCount h count hmajors =>
    rw [build_of_newest h, keptMajors_iff.1 hmajors,
      checkMajorCount_eq_error_iff.2 ⟨miscounted_iff.1 count, rfl⟩]
    rfl
  | missingLine h count lacks =>
    rw [build_of_newest h, checkMajorCount_of_counted count, ok_bind, placements,
      RetainedLines.unreleased_eq_error (lacks_iff.1 lacks)]
    rfl

/-- A matrix is made if the newest version is the expected one, the majors are as many as expected
and no line is lacking. -/
theorem exists_build (h : IsLatest p.Precedes declared.toList expected)
    (count : ¬ Miscounted declared expected p) (lacks : ∀ major, ¬ Lacks declared expected p major) :
    ∃ m, build declared expected p = .ok m := by
  have hlines : (RetainedLines.of declared expected p).Ordered := RetainedLines.ordered_of
  have hlacks : ∀ major, ¬ (RetainedLines.of declared expected p).Lacks expected p major :=
    fun major hmajor => lacks major (lacks_iff.2 hmajor)
  obtain ⟨versions, hversions, -⟩ := hlines.exists_unreleased hlacks
  obtain ⟨us, hus⟩ := exists_placements hlines hversions
  rw [build_of_newest h, checkMajorCount_of_counted count, ok_bind, hus]
  exact ⟨_, rfl⟩

/-- Either there is a reason for a refusal, or everything is in place. -/
theorem exists_refusal_or (declared : SortedSet Version) (expected : Version) (p : Policy) :
    (∃ error, Refusal declared expected p error) ∨ IsLatest p.Precedes declared.toList expected ∧
      ¬ Miscounted declared expected p ∧ ∀ major, ¬ Lacks declared expected p major := by
  cases hnewest : p.newest? declared.toList with
  | none =>
    left
    exact ⟨_, .noVersions (List.eq_nil_iff_forall_not_mem.1 (p.newest?_eq_none_iff.1 hnewest))⟩
  | some newest =>
    have h := p.newest?_eq_some_iff.1 hnewest
    by_cases hne : newest = expected
    · subst hne
      by_cases count : Miscounted declared newest p
      · exact .inl ⟨_, .majorCount h count (keptMajors_iff.2 rfl)⟩
      · by_cases lacks : ∃ major, Lacks declared newest p major
        · obtain ⟨major, hmajor⟩ := lacks
          exact .inl ⟨_, .missingLine h count hmajor⟩
        · exact .inr ⟨h, count, not_exists.1 lacks⟩
    · exact .inl ⟨_, .currentMismatch h hne⟩

/-- **The outcome of a construction.** It fails with an error exactly for the reason that the error
names, and succeeds exactly if the newest version is the expected one, the majors are as many as
expected and no line is lacking. Once the unreleased versions are known, the released lines and the
branches of the unreleased versions are known too. -/
theorem build_outcome (declared : SortedSet Version) (expected : Version) (p : Policy) :
    (∀ error, build declared expected p = .error error ↔ Refusal declared expected p error) ∧
    ((∃ m, build declared expected p = .ok m) ↔ IsLatest p.Precedes declared.toList expected ∧
      ¬ Miscounted declared expected p ∧ ∀ major, ¬ Lacks declared expected p major) ∧
    ∀ versions, (RetainedLines.of declared expected p).unreleased expected p = .ok versions →
      ∃ released, releasedLines (.of declared expected p) expected p = .ok released ∧
        ∀ v ∈ versions, ∃ branch, (RetainedLines.of declared expected p).branch p.trunkBranch v
          (Project.ofVersion v expected versions released) = .ok branch := by
  refine ⟨?_, ?_, ?_⟩
  · intro error
    refine ⟨fun herror => ?_, build_eq_error⟩
    rcases exists_refusal_or declared expected p with ⟨other, hother⟩ | ⟨h, count, lacks⟩
    · have hsame := build_eq_error hother
      rw [herror] at hsame
      cases hsame
      exact hother
    · obtain ⟨m, hm⟩ := exists_build h count lacks
      rw [herror] at hm
      cases hm
  · refine ⟨?_, fun ⟨h, count, lacks⟩ => exists_build h count lacks⟩
    rintro ⟨m, hm⟩
    refine (exists_refusal_or declared expected p).resolve_left ?_
    rintro ⟨error, herror⟩
    rw [build_eq_error herror] at hm
    cases hm
  · intro versions hversions
    obtain ⟨released, hreleased⟩ := exists_releasedLines RetainedLines.ordered_of hversions
    exact ⟨released, hreleased, fun v hv =>
      exists_branch_of_unreleased RetainedLines.ordered_of hversions released hv⟩

end Matrix

end ReleaseMatrix
