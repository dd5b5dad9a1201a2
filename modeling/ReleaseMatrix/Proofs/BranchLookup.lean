import ReleaseMatrix.Proofs.Projects

/-!
# Branches by the paths of projects

Build scripts name a project by its path and ask a matrix for the branch on which that project
develops a version. The matrix has stored branches for its unreleased versions, found while it was
made; the look-up finds a branch anew, for any version and any text. For an unreleased version and
the path of its project both are the same. In general the look-up fails for two reasons only: the
text is the path of no project, or it is that of the minor project and no version is kept on the
major of the version asked for.
-/

namespace ReleaseMatrix

/-! ### Projects and their paths -/

namespace Project

/-- No two projects have the same path. -/
theorem path_injective : Function.Injective path := by
  intro a b h
  have hpath : ofPath a.path = ofPath b.path := congrArg ofPath h
  rw [ofPath_path, ofPath_path] at hpath
  exact Except.ok.inj hpath

/-- A text that is the path of no project is refused. -/
theorem ofPath_eq_error {text : String} (h : ∀ project : Project, project.path ≠ text) :
    ofPath text = .error (.unknownProject text) := by
  have hfind : (all.find? fun project => project.path = text) = none := by
    rw [List.find?_eq_none]
    intro project _
    simpa using h project
  rw [ofPath, hfind]

end Project

namespace RetainedLines

variable {lines : RetainedLines} {trunk text : String} {v : Version} {project : Project}
  {e : MatrixError}

theorem branchAt_path : lines.branchAt trunk v project.path = lines.branch trunk v project := by
  rw [branchAt, Project.ofPath_path, ok_bind]

theorem branchAt_of_unknown (h : ∀ project : Project, project.path ≠ text) :
    lines.branchAt trunk v text = .error (.unknownProject text) := by
  rw [branchAt, Project.ofPath_eq_error h, error_bind]

/-- The reasons for which no branch is found, each with its error. -/
theorem branchAt_eq_error_iff : lines.branchAt trunk v text = .error e ↔
    ((∀ project : Project, project.path ≠ text) ∧ e = .unknownProject text) ∨
      (text = Project.minor.path ∧ lines.line v.major = [] ∧ e = .missingLine v.major) := by
  by_cases hunknown : ∀ project : Project, project.path ≠ text
  · rw [branchAt_of_unknown hunknown, Except.error.injEq]
    constructor
    · intro h
      exact .inl ⟨hunknown, h.symm⟩
    · rintro (⟨-, rfl⟩ | ⟨hminor, -⟩)
      · rfl
      · exact absurd hminor.symm (hunknown _)
  · obtain ⟨project, rfl⟩ : ∃ project : Project, project.path = text := by
      simpa using hunknown
    rw [branchAt_path, branch_eq_error_iff, Project.path_injective.eq_iff]
    constructor
    · rintro ⟨hminor, he, hnil⟩
      exact .inr ⟨hminor, hnil, he⟩
    · rintro (⟨h, -⟩ | ⟨hminor, hnil, he⟩)
      · exact absurd h hunknown
      · exact ⟨hminor, he, hnil⟩

end RetainedLines

/-! ### The look-up in a matrix -/

namespace Matrix

variable {declared : SortedSet Version} {current v : Version} {p : Policy} {m : Matrix}
  {text : String}

theorem Built.branchAt_eq (h : Built declared current p m) :
    m.branchAt v text = (RetainedLines.of declared current p).branchAt p.trunkBranch v text := by
  rw [branchAt, h.lines_eq, h.policy_eq]

/-- The branch of an unreleased version is found again by the path of its project. -/
theorem Built.branchAt_path (h : Built declared current p m) {u : Unreleased}
    (hu : u ∈ m.unreleased) : m.branchAt u.version u.project.path = .ok u.branch := by
  rw [h.branchAt_eq, RetainedLines.branchAt_path, h.branch_eq hu]

/-- Whether a text asks for the minor project's branch on a major of which no version is kept. -/
def LacksMinorBranch (declared : SortedSet Version) (current : Version) (p : Policy) (v : Version)
    (text : String) : Prop :=
  text = Project.minor.path ∧ ∀ w, p.Keeps declared current w → w.major ≠ v.major

theorem Built.branchAt_eq_error_iff (h : Built declared current p m) {e : MatrixError} :
    m.branchAt v text = .error e ↔
      ((∀ project : Project, project.path ≠ text) ∧ e = .unknownProject text) ∨
        (LacksMinorBranch declared current p v text ∧ e = .missingLine v.major) := by
  rw [h.branchAt_eq, RetainedLines.branchAt_eq_error_iff, RetainedLines.line_of_eq_nil_iff,
    LacksMinorBranch, and_assoc]

/-- **Branches by paths.** For every unreleased version the path of its project gives the branch that
the matrix has stored. For any version and any text, the look-up finds no project exactly if the
text is the path of none, it misses the line of the version exactly if the text is the path of the
minor project and no version of that major is kept, and otherwise it gives a branch. -/
theorem branchAt_outcome (h : build declared current p = .ok m) :
    (∀ u ∈ m.unreleased, m.branchAt u.version u.project.path = .ok u.branch) ∧
    ∀ v text,
      (m.branchAt v text = .error (.unknownProject text) ↔
        ∀ project : Project, project.path ≠ text) ∧
      (m.branchAt v text = .error (.missingLine v.major) ↔
        LacksMinorBranch declared current p v text) ∧
      ((∃ branch, m.branchAt v text = .ok branch) ↔
        (∃ project : Project, project.path = text) ∧
          ¬ LacksMinorBranch declared current p v text) := by
  have hbuilt := build_eq_ok_iff.1 h
  refine ⟨fun u hu => hbuilt.branchAt_path hu, fun v text => ⟨?_, ?_, ?_⟩⟩
  · simp [hbuilt.branchAt_eq_error_iff]
  · simp [hbuilt.branchAt_eq_error_iff]
  · have hnone : (∃ branch, m.branchAt v text = .ok branch) ↔ ∀ e, m.branchAt v text ≠ .error e := by
      cases m.branchAt v text <;> simp
    rw [hnone]
    simp only [ne_eq, hbuilt.branchAt_eq_error_iff]
    constructor
    · intro hno
      refine ⟨?_, fun hlacks => hno _ (.inr ⟨hlacks, rfl⟩)⟩
      by_contra hunknown
      exact hno _ (.inl ⟨not_exists.1 hunknown, rfl⟩)
    · rintro ⟨⟨project, hpath⟩, hhas⟩ e (⟨hunknown, -⟩ | ⟨hlacks, -⟩)
      · exact hunknown project hpath
      · exact hhas hlacks

/-- A version that is not declared has a branch too, if any version of its major is kept. -/
theorem branchAt_outcome_parallelRevisions :
    ∃ m, build parallelRevisions (.of 5 1 0) .standard = .ok m ∧
      { version := .of 4 3 0, branch := "4.x", project := .minor } ∈ m.unreleased ∧
      m.branchAt (.of 4 3 0) ":distribution:bwc:minor" = .ok "4.x" ∧
      (∃ branch, m.branchAt (.of 4 9 0) ":distribution:bwc:minor" = .ok branch) ∧
      m.branchAt (.of 9 0 0) ":distribution:bwc:minor" = .error (.missingLine 9) ∧
      m.branchAt (.of 4 9 0) ":distribution:bwc:nightly" =
        .error (.unknownProject ":distribution:bwc:nightly") := by
  have h : build parallelRevisions (.of 5 1 0) .standard = .ok _ := rfl
  obtain ⟨hstored, houtcome⟩ := branchAt_outcome h
  refine ⟨_, h, by decide,
    hstored { version := .of 4 3 0, branch := "4.x", project := .minor } (by decide), ?_, ?_, ?_⟩
  · refine (houtcome (.of 4 9 0) _).2.2.2 ⟨⟨.minor, rfl⟩, ?_⟩
    rintro ⟨-, hnone⟩
    exact hnone (.of 4 3 0) ⟨by decide, by decide⟩ rfl
  · refine (houtcome (.of 9 0 0) _).2.1.2 ⟨rfl, fun w hw => ?_⟩
    have hdeclared : ∀ w ∈ parallelRevisions.toList, w.major ≠ 9 := by decide
    exact hdeclared w hw.1
  · refine (houtcome (.of 4 9 0) _).1.2 fun project => ?_
    cases project <;> decide

end Matrix

end ReleaseMatrix
