import ReleaseMatrix.Proofs.PrintedReport

/-!
# The list of previous versions can be read back

The list of previous unreleased versions has a line of three fields for each of them: the version,
its branch and the path of its project, with single spaces between them. The name of the trunk,
which can be any text, does not get there: only the current version is built from the trunk and by
the distribution, and it is left out. Every other branch is named with digits, a point and perhaps an
`x`. So the fields are read back as the version, its branch and its project, and the list for one
project is the part of the whole list with that project. No line is for the distribution, and the
lists for the other four projects share the whole list among them.
-/

namespace ReleaseMatrix

open Text Script

/-! ### Lists shared out by a key -/

/-- The parts of a list with one key each are the list, in another order, if no key is left out. -/
theorem perm_flatMap_filter {α β : Type} [DecidableEq β] (key : α → β) {keys : List β}
    (hkeys : keys.Nodup) {xs : List α} (h : ∀ x ∈ xs, key x ∈ keys) :
    (keys.flatMap fun k => xs.filter fun x => key x = k).Perm xs := by
  induction keys generalizing xs with
  | nil =>
    cases xs with
    | nil => exact .nil
    | cons x xs => exact absurd (h x List.mem_cons_self) List.not_mem_nil
  | cons k keys ih =>
    obtain ⟨hk, hkeys⟩ := List.nodup_cons.1 hkeys
    -- the parts with later keys are parts of what the first key leaves
    have hleft : ∀ x ∈ xs.filter fun x => !decide (key x = k), key x ∈ keys := by
      intro x hx
      obtain ⟨hx, hne⟩ := List.mem_filter.1 hx
      exact (List.mem_cons.1 (h x hx)).resolve_left (by simpa using hne)
    have hparts : (keys.flatMap fun k' => xs.filter fun x => key x = k') =
        keys.flatMap fun k' => (xs.filter fun x => !decide (key x = k)).filter
          fun x => key x = k' := by
      refine List.flatMap_congr fun k' hk' => ?_
      rw [List.filter_filter]
      refine List.filter_congr fun x _ => ?_
      by_cases hx : key x = k'
      · have hne : k' ≠ k := fun heq => hk (heq ▸ hk')
        simp [hx, hne]
      · simp [hx]
    rw [List.flatMap_cons, hparts]
    exact ((ih hkeys hleft).append_left _).trans
      (List.filter_append_perm (fun x => decide (key x = k)) xs)

/-! ### Lines of three fields -/

namespace Unreleased

variable {u : Unreleased}

/-- The fields of a line, which spaces separate. -/
def fields (line : String) : List (List Char) := pieces ' ' line.toList

/-- The unreleased version that a line of three fields describes. -/
def ofLine? (line : String) : Option Unreleased :=
  match (fields line).map String.ofList with
  | [version, branch, project] =>
    match Version.ofText version, Project.ofPath project with
    | .ok version, .ok project => some { version, branch, project }
    | _, _ => none
  | _ => none

theorem fields_line (h : ' ' ∉ u.branch.toList) :
    fields u.line = [u.version.text.toList, u.branch.toList, u.project.path.toList] := by
  have hproject : ' ' ∉ u.project.path.toList := by
    cases u.project <;> decide
  exact pieces_eq_three_iff.2 ⟨u.version.space_not_mem_text, h, hproject, u.toList_line⟩

/-- A line is read back if the name of the branch has no spaces. -/
theorem ofLine?_line (h : ' ' ∉ u.branch.toList) : ofLine? u.line = some u := by
  simp only [ofLine?, fields_line h, List.map_cons, List.map_nil, String.ofList_toList,
    Version.ofText_text, Project.ofPath_path]

end Unreleased

/-! ### The previous unreleased versions -/

/-- Away from the trunk a branch is named by digits, a point and perhaps an `x`. -/
theorem OnBranch.isDigit_or {lines : RetainedLines} {current v : Version} {trunk b : String}
    (h : OnBranch lines current trunk v b) (hne : v ≠ current) {c : Char} (hc : c ∈ b.toList) :
    c.isDigit ∨ c = '.' ∨ c = 'x' := by
  have hdigit : ∀ n, c ∈ Nat.toDigits 10 n → c.isDigit := fun _ =>
    Nat.isDigit_of_mem_toDigits (by decide) (by decide)
  cases h with
  | trunk => exact absurd rfl hne
  | major =>
    simp only [Version.toList_majorBranch, List.mem_append, List.mem_cons, List.not_mem_nil,
      or_false] at hc
    exact hc.imp_left (hdigit _)
  | minor =>
    simp only [Version.toList_minorBranch, List.mem_append, List.mem_cons] at hc
    rcases hc with hc | hc | hc
    · exact .inl (hdigit _ hc)
    · exact .inr (.inl hc)
    · exact .inl (hdigit _ hc)

theorem OnBranch.ne_empty {lines : RetainedLines} {current v : Version} {trunk b : String}
    (h : OnBranch lines current trunk v b) (hne : v ≠ current) : b.toList ≠ [] := by
  cases h with
  | trunk => exact absurd rfl hne
  | major => simp [Version.toList_majorBranch]
  | minor => simp [Version.toList_minorBranch]

namespace Matrix

variable {declared : SortedSet Version} {current : Version} {p : Policy} {m : Matrix}
  {u : Unreleased}

theorem Built.mem_previous (h : Built declared current p m) (hu : u ∈ m.previousUnreleased) :
    u ∈ m.unreleased ∧ u.version ≠ current := by
  rw [previousUnreleased, List.mem_filter, decide_eq_true_eq, h.current_eq] at hu
  exact hu

/-- The name of the trunk is not among the branches of the previous versions. -/
theorem Built.not_mem_branch_of_previous (h : Built declared current p m)
    (hu : u ∈ m.previousUnreleased) {c : Char} (hdigit : ¬ c.isDigit) (hpoint : c ≠ '.')
    (hx : c ≠ 'x') : c ∉ u.branch.toList := by
  obtain ⟨hu, hne⟩ := h.mem_previous hu
  intro hc
  rcases (h.onBranch hu).isDigit_or hne hc with hc | hc | hc <;> contradiction

/-- The distribution builds none of the previous versions. -/
theorem Built.project_ne_distribution (h : Built declared current p m)
    (hu : u ∈ m.previousUnreleased) : u.project ≠ .distribution := by
  obtain ⟨hu, hne⟩ := h.mem_previous hu
  intro hproject
  rw [h.project_eq hu] at hproject
  exact hne (Project.ofVersion_eq_iff.1 hproject)

theorem Built.nodup_previousUnreleased (h : Built declared current p m) :
    m.previousUnreleased.Nodup :=
  (List.Nodup.of_map _ h.nodup_unreleasedVersions).filter _

/-- The line of a previous version is one line of output. -/
theorem Built.not_mem_line_of_previous (h : Built declared current p m)
    (hu : u ∈ m.previousUnreleased) : '\n' ∉ u.line.toList ∧ '\r' ∉ u.line.toList := by
  have hline : ∀ c, ¬ c.isDigit → c ≠ '.' → c ≠ 'x' → c ≠ ' ' → (∀ project : Project,
      c ∉ project.path.toList) → c ∉ u.line.toList := by
    intro c hdigit hpoint hx hspace hproject
    simp [Unreleased.toList_line, Version.not_mem_text hdigit hpoint,
      h.not_mem_branch_of_previous hu hdigit hpoint hx, hspace, hproject]
  constructor
  · refine hline '\n' (by decide) (by decide) (by decide) (by decide) fun project => ?_
    cases project <;> decide
  · refine hline '\r' (by decide) (by decide) (by decide) (by decide) fun project => ?_
    cases project <;> decide

/-- The lines of the list are the lines of the chosen versions. -/
theorem Built.linesOf_listPrevious (h : Built declared current p m) (project : Option Project) :
    linesOf (m.listPrevious project) =
      (m.previousUnreleased.filter fun u => project.all (u.project = ·)).map Unreleased.line := by
  have hlines : ∀ line ∈ (m.previousUnreleased.filter fun u => project.all (u.project = ·)).map
      fun u => u.line.toList, '\n' ∉ line ∧ '\r' ∉ line := by
    intro line hline
    obtain ⟨u, hu, rfl⟩ := List.mem_map.1 hline
    exact h.not_mem_line_of_previous (List.mem_filter.1 hu).1
  have hchars : (m.listPrevious project).toList =
      ((m.previousUnreleased.filter fun u => project.all (u.project = ·)).map
        fun u => u.line.toList).flatMap (· ++ ['\n']) := by
    simp [listPrevious, String.toList_join, List.flatMap_map]
  rw [linesOf, hchars, lines_flatMap hlines]
  simp [Function.comp_def]

end Matrix

namespace Command

variable {config : String} {variableValue : Option String} {around : Surroundings} {m : Matrix}

theorem script_previousUnreleased_path (config : String) (project : Option Project) :
    (previousUnreleased config (project.map Project.path)).script variableValue =
      Config.matrixAt config variableValue >>= fun m => put (m.listPrevious project) := by
  have hproject : chooseProject (project.map Project.path) = .ok project := by
    cases project with
    | none => rfl
    | some project => simp [chooseProject]
  rw [script, hproject]
  show (Config.load config >>= fun settings => settings.loadMatrix variableValue >>= fun m =>
    put (m.listPrevious project)) = _
  exact (LawfulMonad.bind_assoc _ _ _).symm

theorem run_previousUnreleased_path
    (hmatrix : (Config.matrixAt config variableValue).result around = .ok m)
    (project : Option Project) :
    ((previousUnreleased config (project.map Project.path)).script variableValue).run around =
      (m.listPrevious project, .ok ()) := by
  rw [script_previousUnreleased_path, Config.run_matrixAt_bind, hmatrix]
  exact run_put _ _

/-- The lines that list the previous unreleased versions, of one project or of all. -/
def previousLines (config : String) (variableValue : Option String) (around : Surroundings)
    (project : Option Project) : List String :=
  linesOf (((previousUnreleased config (project.map Project.path)).script variableValue).output
    around)

/-- What is read off the lists of previous unreleased versions, of one project or of all. -/
structure ReadBack (m : Matrix) (lines : Option Project → List String) : Prop where
  /-- A line has three fields with single spaces between them. -/
  fields : ∀ line ∈ lines none,
    (Unreleased.fields line).length = 3 ∧ ∀ field ∈ Unreleased.fields line, field ≠ []
  /-- The fields of the lines give back the previous unreleased versions, in their order. -/
  versions : (lines none).map Unreleased.ofLine? = m.previousUnreleased.map some
  /-- The list of a project has the lines of the whole list with that project, in their order. -/
  filtered : ∀ project, lines (some project) =
    (lines none).filter fun line => (Unreleased.ofLine? line).any (·.project = project)
  /-- The list of the distribution is empty. -/
  distribution : lines (some .distribution) = []
  /-- No line is there twice. -/
  once : (lines none).Nodup
  /-- The lists of the other projects have all lines among them. -/
  shared : ([.minor, .staged, .bugfix, .maintenance].flatMap fun project =>
    lines (some project)).Perm (lines none)

theorem readBack_of_built {declared : SortedSet Version} {current : Version} {p : Policy}
    (h : Matrix.Built declared current p m) :
    ReadBack m fun project => linesOf (m.listPrevious project) := by
  have hspace : ∀ u ∈ m.previousUnreleased, ' ' ∉ u.branch.toList := fun u hu =>
    h.not_mem_branch_of_previous hu (by decide) (by decide) (by decide)
  have hall : linesOf (m.listPrevious none) = m.previousUnreleased.map Unreleased.line := by
    simp [h.linesOf_listPrevious]
  have hsome : ∀ project, linesOf (m.listPrevious (some project)) =
      (m.previousUnreleased.filter fun u => u.project = project).map Unreleased.line := by
    intro project
    simp [h.linesOf_listPrevious]
  constructor
  case fields =>
    rw [hall]
    intro line hline
    obtain ⟨u, hu, rfl⟩ := List.mem_map.1 hline
    have hversion : u.version.text.toList ≠ [] := by simp [Version.toList_text]
    have hbranch : u.branch.toList ≠ [] :=
      (h.onBranch (h.mem_previous hu).1).ne_empty (h.mem_previous hu).2
    have hproject : u.project.path.toList ≠ [] := by
      cases u.project <;> decide
    rw [Unreleased.fields_line (hspace u hu)]
    exact ⟨rfl, by simp [hversion, hbranch, hproject]⟩
  case versions =>
    rw [hall, List.map_map]
    refine List.map_congr_left fun u hu => ?_
    rw [Function.comp_apply, Unreleased.ofLine?_line (hspace u hu)]
  case filtered =>
    intro project
    rw [hall, hsome, List.filter_map]
    refine congrArg (List.map Unreleased.line) (List.filter_congr fun u hu => ?_)
    rw [Function.comp_apply, Unreleased.ofLine?_line (hspace u hu), Option.any_some]
  case distribution =>
    rw [hsome, List.map_eq_nil_iff, List.filter_eq_nil_iff]
    exact fun u hu hproject => h.project_ne_distribution hu (of_decide_eq_true hproject)
  case once =>
    rw [hall]
    exact h.nodup_previousUnreleased.map Unreleased.line_injective
  case shared =>
    have hkeys : ∀ u ∈ m.previousUnreleased,
        u.project ∈ [Project.minor, .staged, .bugfix, .maintenance] := fun u hu =>
      (List.mem_cons.1 u.project.mem_all).resolve_left (h.project_ne_distribution hu)
    simp only [hall, hsome]
    rw [← List.map_flatMap]
    exact (perm_flatMap_filter Unreleased.project (by decide) hkeys).map Unreleased.line

/-- **The list of previous versions can be read back**, whatever the name of the trunk is. If the
matrix of a config is made, the previous unreleased versions are listed for all projects and for any
one of them. Every line has three fields, which give back a version, its branch and its project; and
the lists for single projects, of which that for the distribution is empty, are the parts of the
whole list. -/
theorem readBack_previousLines
    (hmatrix : (Config.matrixAt config variableValue).result around = .ok m) :
    (∀ project : Option Project,
      ((previousUnreleased config (project.map Project.path)).script variableValue).result around =
        .ok ()) ∧
    ReadBack m (previousLines config variableValue around) := by
  have hrun := run_previousUnreleased_path hmatrix
  obtain ⟨settings, current, source, -, -, -, hm⟩ := Config.result_matrixAt_eq_ok_iff.1 hmatrix
  refine ⟨fun project => by rw [result, hrun], ?_⟩
  have hlines : previousLines config variableValue around =
      fun project => linesOf (m.listPrevious project) := by
    funext project
    rw [previousLines, output, hrun]
  rw [hlines]
  exact readBack_of_built (Matrix.build_eq_ok_iff.1 hm)

/-- Files of a build whose trunk has a name with spaces, which looks like the end of a line. -/
def spacedTrunk : Surroundings where
  files
    | "bwc.yaml" => .ok ("versions:\n  declarations: Version.java\n  current: 5.0.0\n" ++
        "policy:\n  trunk_branch: 4.x :distribution:bwc:minor\n")
    | "Version.java" => .ok (" public static final Version V_4_2_0 \n" ++
        " public static final Version V_5_0_0 \n")
    | _ => .error .notFound
  environment _ := none

/-- One previous version is unreleased, and its line is read back. -/
theorem readBack_previousLines_spacedTrunk :
    ∃ m, (Config.matrixAt "bwc.yaml" none).result spacedTrunk = .ok m ∧
      m.unreleased.map Unreleased.line = ["4.2.0 4.x :distribution:bwc:minor",
        "5.0.0 4.x :distribution:bwc:minor :distribution"] ∧
      previousLines "bwc.yaml" none spacedTrunk none = ["4.2.0 4.x :distribution:bwc:minor"] ∧
      ReadBack m (previousLines "bwc.yaml" none spacedTrunk) := by
  have hlines : ((Config.matrixAt "bwc.yaml" none).result spacedTrunk).toOption.map
      (fun m => (m.unreleased.map Unreleased.line, linesOf (m.listPrevious none))) =
      some (["4.2.0 4.x :distribution:bwc:minor",
        "5.0.0 4.x :distribution:bwc:minor :distribution"],
        ["4.2.0 4.x :distribution:bwc:minor"]) := by
    decide +kernel
  cases hmatrix : (Config.matrixAt "bwc.yaml" none).result spacedTrunk with
  | error reason => simp [hmatrix, Except.toOption] at hlines
  | ok m =>
    simp only [hmatrix, Except.toOption, Option.map_some, Option.some.injEq, Prod.mk.injEq]
      at hlines
    refine ⟨m, rfl, hlines.1, ?_, (readBack_previousLines hmatrix).2⟩
    rw [previousLines, output, run_previousUnreleased_path hmatrix none]
    exact hlines.2

end Command

end ReleaseMatrix
