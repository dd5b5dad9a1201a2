import ReleaseMatrix.Proofs.Agreement
import ReleaseMatrix.Proofs.BranchLookup

/-!
# The printed report determines the report

The text of a report is taken apart at its newlines: a line for the current version, one that opens
the unreleased section, one for each unreleased version, and five for the lists of versions. Since
the last part has always the same length, the unreleased section ends where it begins. A line of an
unreleased version is taken apart at its first and its last space; what stands between them is the
branch, which may have spaces, be empty, or look like any other line. A list is taken apart at its
commas. So two reports with the same text are the same, provided that no branch breaks a line, which
for the branches of a matrix depends on the name of the trunk alone.
-/

namespace ReleaseMatrix

open Text

/-! ### Lists of versions -/

theorem toList_joinVersions_cons_cons (v w : Version) (versions : List Version) :
    (joinVersions (v :: w :: versions)).toList =
      v.text.toList ++ ',' :: ' ' :: (joinVersions (w :: versions)).toList := by
  simp [joinVersions]

theorem newline_not_mem_joinVersions (versions : List Version) :
    '\n' ∉ (joinVersions versions).toList := by
  induction versions with
  | nil => simp [joinVersions]
  | cons v versions ih =>
    cases versions with
    | nil => simpa [joinVersions] using v.newline_not_mem_text
    | cons w versions => simp [toList_joinVersions_cons_cons, v.newline_not_mem_text, ih]

/-- A list is taken apart at its commas; a space is left before every version but the first. -/
theorem pieces_joinVersions (v : Version) (versions : List Version) :
    pieces ',' (joinVersions (v :: versions)).toList =
      v.text.toList :: versions.map fun w => ' ' :: w.text.toList := by
  have hcomma : ∀ w : Version, ',' ∉ w.text.toList := Version.not_mem_text (by decide) (by decide)
  induction versions generalizing v with
  | nil => simpa [joinVersions] using pieces_of_not_mem (hcomma v)
  | cons w versions ih =>
    rw [toList_joinVersions_cons_cons, pieces_append _ (hcomma v), pieces, if_neg (by decide), ih]
    rfl

theorem joinVersions_injective : Function.Injective joinVersions := by
  have hempty : ∀ v versions, joinVersions [] ≠ joinVersions (v :: versions) := by
    intro v versions h
    have hpieces := pieces_joinVersions v versions
    rw [← h] at hpieces
    have htext : v.text.toList = [] := (List.cons.inj hpieces).1.symm
    simp [Version.toList_text] at htext
  intro versions versions' h
  cases versions with
  | nil =>
    cases versions' with
    | nil => rfl
    | cons w rest' => exact absurd h (hempty w rest')
  | cons v rest =>
    cases versions' with
    | nil => exact absurd h.symm (hempty v rest)
    | cons w rest' =>
      have hpieces := pieces_joinVersions v rest
      rw [h, pieces_joinVersions w rest', List.cons.injEq] at hpieces
      obtain ⟨hfirst, hrest⟩ := hpieces
      have hspaced : Function.Injective fun w : Version => ' ' :: w.text.toList := fun _ _ heq =>
        Version.text_injective (String.toList_injective (List.cons.inj heq).2)
      rw [Version.text_injective (String.toList_injective hfirst),
        List.map_injective_iff.2 hspaced hrest]

/-! ### Lines of unreleased versions -/

namespace Unreleased

/-- The first space ends the version and the last one begins the project. -/
theorem line_injective : Function.Injective line := by
  intro u w h
  have hproject : ∀ project : Project, ' ' ∉ project.path.toList.reverse := by
    intro project
    cases project <;> decide
  have hline := congrArg String.toList h
  rw [toList_line, toList_line] at hline
  obtain ⟨hfirst, hrest⟩ := append_separator_inj u.version.space_not_mem_text
    w.version.space_not_mem_text hline
  -- read backwards, the last space is the first
  have hback := congrArg List.reverse hrest
  simp only [List.reverse_append, List.reverse_cons, List.append_assoc,
    List.singleton_append] at hback
  obtain ⟨hlast, hmiddle⟩ := append_separator_inj (hproject _) (hproject _) hback
  obtain ⟨version, branch, project⟩ := u
  obtain ⟨version', branch', project'⟩ := w
  rw [Unreleased.mk.injEq]
  exact ⟨Version.text_injective (String.toList_injective hfirst),
    String.toList_injective (List.reverse_injective hmiddle),
    Project.path_injective (String.toList_injective (List.reverse_injective hlast))⟩

end Unreleased

/-! ### Reports -/

namespace Report

variable {r r' : Report}

/-- The line of a list of versions. -/
def listLine (row : String × List Version) : List Char :=
  row.1.toList ++ ": ".toList ++ (joinVersions row.2).toList

/-- The lines of a report. -/
def textLines (r : Report) : List (List Char) :=
  ("current: ".toList ++ r.current.text.toList) :: "unreleased:".toList ::
    (r.unreleased.map (fun u => "  ".toList ++ u.line.toList) ++ r.lists.map listLine)

theorem toList_text_eq (r : Report) : r.text.toList = r.textLines.flatMap (· ++ ['\n']) := by
  simp [text, textLines, listLine, String.toList_join, List.flatMap_map]

theorem newline_not_mem_listLine {row : String × List Version} (h : row ∈ r.lists) :
    '\n' ∉ listLine row := by
  have hname : '\n' ∉ row.1.toList := by
    simp only [lists, List.mem_cons, List.not_mem_nil, or_false] at h
    rcases h with rfl | rfl | rfl | rfl | rfl <;> simp
  simp [listLine, hname, newline_not_mem_joinVersions]

/-- Taken apart at its newlines, the text of a report gives its lines. -/
theorem pieces_text (h : ∀ u ∈ r.unreleased, '\n' ∉ u.line.toList) :
    pieces '\n' r.text.toList = r.textLines ++ [[]] := by
  have hlines : ∀ line ∈ r.textLines, '\n' ∉ line := by
    intro line hline
    simp only [textLines, List.mem_cons, List.mem_append, List.mem_map] at hline
    rcases hline with rfl | rfl | ⟨u, hu, rfl⟩ | ⟨row, hrow, rfl⟩
    · simp [r.current.newline_not_mem_text]
    · decide
    · simp [h u hu]
    · exact newline_not_mem_listLine hrow
  rw [toList_text_eq, ← List.append_nil (r.textLines.flatMap _), pieces_flatMap_append [] hlines]
  rfl

/-- Reports with the same lines are the same: the lines of the lists are always five, so the
unreleased sections have the same lines, too. -/
theorem eq_of_textLines_eq (h : r.textLines = r'.textLines) : r = r' := by
  obtain ⟨hcurrent, -, hrest⟩ : _ ∧ _ ∧ _ := by simpa only [textLines, List.cons.injEq] using h
  obtain ⟨hunreleased, hlists⟩ := List.append_inj' hrest rfl
  have hindented : Function.Injective fun u : Unreleased => "  ".toList ++ u.line.toList :=
    fun _ _ heq => Unreleased.line_injective (String.toList_injective (List.append_cancel_left heq))
  have hlist : ∀ {name : String} {versions versions' : List Version},
      listLine (name, versions) = listLine (name, versions') → versions = versions' :=
    fun heq => joinVersions_injective (String.toList_injective (List.append_cancel_left heq))
  simp only [lists, List.map_cons, List.map_nil, List.cons.injEq, and_true] at hlists
  obtain ⟨hreleased, hindex, hwire, hunreleasedIndex, hunreleasedWire⟩ := hlists
  obtain ⟨current, unreleased, released, index, wire, unreleasedIndex, unreleasedWire⟩ := r
  obtain ⟨current', unreleased', released', index', wire', unreleasedIndex', unreleasedWire'⟩ := r'
  rw [Report.mk.injEq]
  exact ⟨Version.text_injective (String.toList_injective (List.append_cancel_left hcurrent)),
    List.map_injective_iff.2 hindented hunreleased, hlist hreleased, hlist hindex, hlist hwire,
    hlist hunreleasedIndex, hlist hunreleasedWire⟩

theorem eq_of_text_eq (h : ∀ u ∈ r.unreleased, '\n' ∉ u.line.toList)
    (h' : ∀ u ∈ r'.unreleased, '\n' ∉ u.line.toList) (htext : r.text = r'.text) : r = r' := by
  have hpieces := pieces_text h
  rw [htext, pieces_text h'] at hpieces
  exact (eq_of_textLines_eq (List.append_cancel_right hpieces)).symm

end Report

namespace Matrix

variable {declared declared' : SortedSet Version} {current current' : Version} {p p' : Policy}
  {m m' : Matrix}

/-- **The printed report determines the report.** If no name of a trunk breaks a line, two matrices
with the same text have the same report: the same current version, the same unreleased versions with
the same branches and projects in the same order, and the same lists of versions. -/
theorem report_eq_of_text_eq (h : build declared current p = .ok m)
    (h' : build declared' current' p' = .ok m') (htrunk : '\n' ∉ p.trunkBranch.toList)
    (htrunk' : '\n' ∉ p'.trunkBranch.toList) (htext : m.report.text = m'.report.text) :
    m.report = m'.report :=
  Report.eq_of_text_eq (fun _ hu => (build_eq_ok_iff.1 h).newline_not_mem_line htrunk hu)
    (fun _ hu => (build_eq_ok_iff.1 h').newline_not_mem_line htrunk' hu) htext

/-- A policy under which the line of the current version ends like another line and goes on like a
third one. -/
def crowdedTrunk : Policy := { Policy.standard with trunkBranch := " :distribution  4.2.1" }

/-- The text of a report under that policy. -/
def crowdedText : String :=
  "current: 5.0.0\nunreleased:\n  4.2.1 4.2 :distribution:bwc:bugfix\n" ++
  "  5.0.0  :distribution  4.2.1 :distribution\nreleased: 4.2.0\n" ++
  "index compatible: 4.2.0, 4.2.1\nwire compatible: 4.2.0, 4.2.1\n" ++
  "unreleased index compatible: 4.2.1\nunreleased wire compatible: 4.2.1\n"

/-- Other declarations, with a line that is not kept, have the same text and so the same report. -/
theorem report_eq_of_text_eq_droppedLine :
    ∃ m m', build (.ofList [.of 4 2 0, .of 4 2 1, .of 5 0 0]) (.of 5 0 0) crowdedTrunk = .ok m ∧
      build (.ofList [.of 2 0 0, .of 4 2 0, .of 4 2 1, .of 5 0 0]) (.of 5 0 0) crowdedTrunk =
        .ok m' ∧
      m.report.text = crowdedText ∧ m'.report.text = crowdedText ∧ m.report = m'.report := by
  obtain ⟨m, h, htext⟩ : ∃ m, build (.ofList [.of 4 2 0, .of 4 2 1, .of 5 0 0]) (.of 5 0 0)
      crowdedTrunk = .ok m ∧ m.report.text = crowdedText := ⟨_, rfl, by decide +kernel⟩
  obtain ⟨m', h', htext'⟩ : ∃ m', build (.ofList [.of 2 0 0, .of 4 2 0, .of 4 2 1, .of 5 0 0])
      (.of 5 0 0) crowdedTrunk = .ok m' ∧ m'.report.text = crowdedText :=
    ⟨_, rfl, by decide +kernel⟩
  exact ⟨m, m', h, h', htext, htext',
    report_eq_of_text_eq h h' (by decide) (by decide) (htext.trans htext'.symm)⟩

end Matrix

end ReleaseMatrix
