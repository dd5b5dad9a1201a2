import ReleaseMatrix.Proofs.Branches
import ReleaseMatrix.Proofs.Output

/-!
# The commands agree

Each command finds its answer in the matrix in a way of its own. One prints the list of unreleased
versions, one looks up a single version, one leaves the current version out, and one compares lists.
All of them make the matrix first, so without a matrix they fail alike; and with one they show the
same unreleased versions, each by the same line.

The printed matrix has a section for the unreleased versions. `unreleasedSection` reads it off the
text, which is possible if the name of the trunk, the one part of a line that comes from the config,
does not break lines itself. A version is listed in the section if a line begins with it and a space
(`Version.heads`). So what the other commands print is told by the lines of the section.

## What is proved

* `Config.result_matrixAt_eq_ok_iff`: what it takes that a matrix is made.
* `Unreleased.heads_line`: the line of an unreleased version begins with it and with no other.
* `Report.unreleasedSection_text`: the section of a printed matrix has the lines of its versions.
* `Command.Shown.toldBy_unreleasedSection`: the section tells what the other commands print.
* `Command.agreement`: without a matrix the commands fail alike, with one they show the same.
-/

namespace ReleaseMatrix

open Text Script

/-! ### The matrix behind the commands -/

namespace Config

variable {config : Config} {path : String} {variableValue : Option String} {around : Surroundings}
  {m : Matrix}

/-- A matrix is made of the current version and a source of declarations. -/
theorem result_loadMatrix_eq_ok_iff : (config.loadMatrix variableValue).result around = .ok m ↔
    ∃ current source, (config.versions.resolveCurrent variableValue).result around = .ok current ∧
      around.files config.versions.declarations = .ok source ∧
      Matrix.ofSource source current config.policy = .ok m := by
  simp only [loadMatrix, result_bind_eq_ok_iff, result_ofExcept, result_readFile,
    mapError_eq_ok_iff, exists_and_left]

/-- Makes the matrix that the config in a file describes. -/
def matrixAt (path : String) (variableValue : Option String) : Script Failure Matrix := do
  (← load path).loadMatrix variableValue

theorem silent_matrixAt (path : String) (variableValue : Option String) :
    (matrixAt path variableValue).Silent :=
  (silent_load path).bind fun settings => settings.silent_loadMatrix variableValue

/-- The config is read first. -/
theorem result_matrixAt_eq_ok_iff :
    (matrixAt path variableValue).result around = .ok m ↔ ∃ settings current source,
      (load path).result around = .ok settings ∧
      (settings.versions.resolveCurrent variableValue).result around = .ok current ∧
      around.files settings.versions.declarations = .ok source ∧
      Matrix.ofSource source current settings.policy = .ok m := by
  simp only [matrixAt, result_bind_eq_ok_iff, result_loadMatrix_eq_ok_iff, exists_and_left]

/-- What comes behind the matrix is carried out exactly if the matrix is made. -/
theorem run_matrixAt_bind (next : Matrix → Script Failure Unit) :
    (matrixAt path variableValue >>= next).run around =
      match (matrixAt path variableValue).result around with
      | .error reason => ("", .error reason)
      | .ok m => (next m).run around := by
  rw [run_bind, (silent_matrixAt path variableValue).run_eq]
  split <;> simp_all

end Config

/-! ### Looking versions up -/

namespace Matrix

variable {declared : SortedSet Version} {current v : Version} {p : Policy} {m : Matrix}
  {u : Unreleased}

/-- The look-up of an unreleased version finds its entry. -/
theorem Built.info?_eq_some (h : Built declared current p m) (hu : u ∈ m.unreleased) :
    m.info? u.version = some u := by
  cases hfound : m.info? u.version with
  | none =>
    have hnone := List.find?_eq_none.1 hfound u hu
    exact absurd (decide_eq_true rfl) hnone
  | some found =>
    have hmem : found ∈ m.unreleased := List.mem_of_find?_eq_some hfound
    have hversion : found.version = u.version := by
      rw [info?] at hfound
      simpa using List.find?_some hfound
    rw [List.inj_on_of_nodup_map h.nodup_unreleasedVersions hmem hu hversion]

theorem info?_eq_none (h : v ∉ m.unreleasedVersions) : m.info? v = none := by
  refine List.find?_eq_none.2 fun u hu hversion => h ?_
  rw [← of_decide_eq_true hversion]
  exact List.mem_map_of_mem hu

/-- The versions on the kept lines are the kept versions. -/
theorem Built.retained_iff (h : Built declared current p m) :
    m.retained v ↔ p.Keeps declared current v := by
  rw [retained, h.lines_eq, RetainedLines.contains_of]

theorem Built.describe_of_mem (h : Built declared current p m) (hu : u ∈ m.unreleased) :
    m.describe u.version = .ok (u.line ++ "\n") := by
  rw [describe, h.info?_eq_some hu]

theorem Built.describe_of_keeps (h : Built declared current p m) (hv : v ∉ m.unreleasedVersions)
    (hkeeps : p.Keeps declared current v) : m.describe v = .ok (v.text ++ " is released\n") := by
  rw [describe, info?_eq_none hv]
  exact if_pos (h.retained_iff.2 hkeeps)

theorem Built.describe_of_not_keeps (h : Built declared current p m)
    (hv : v ∉ m.unreleasedVersions) (hkeeps : ¬ p.Keeps declared current v) :
    m.describe v = .error (.notRetained v current) := by
  rw [describe, info?_eq_none hv, h.current_eq]
  exact if_neg (mt h.retained_iff.1 hkeeps)

end Matrix

/-! ### The lines of unreleased versions -/

namespace Version

theorem text_injective : Function.Injective text := by
  intro v w h
  have hread := ofText_text v
  rw [h, ofText_text] at hread
  exact (Except.ok.inj hread).symm

/-- Whether a line is that of the version: it begins with the version and a space. -/
def heads (v : Version) (line : String) : Bool := (v.text ++ " ").toList.isPrefixOf line.toList

end Version

namespace Unreleased

theorem toList_line (u : Unreleased) :
    u.line.toList = u.version.text.toList ++ ' ' :: (u.branch.toList ++
      ' ' :: u.project.path.toList) := by
  simp [line]

/-- A line is that of one version only, since no version has a space in it. -/
@[simp] theorem heads_line (u : Unreleased) (v : Version) :
    v.heads u.line = decide (u.version = v) := by
  rw [Version.heads, Bool.eq_iff_iff, List.isPrefixOf_iff_prefix, decide_eq_true_iff]
  constructor
  · rintro ⟨rest, hrest⟩
    have hline : v.text.toList ++ ' ' :: rest = u.line.toList := by
      rw [← hrest]
      simp
    rw [toList_line] at hline
    have htext := (append_separator_inj v.space_not_mem_text u.version.space_not_mem_text hline).1
    exact (Version.text_injective (String.toList_injective htext)).symm
  · rintro rfl
    exact ⟨u.branch.toList ++ ' ' :: u.project.path.toList, by simp [toList_line]⟩

end Unreleased

/-- The versions without a line are those that are not unreleased. -/
theorem Matrix.forall_not_heads_iff {m : Matrix} {v : Version} :
    (∀ line ∈ m.unreleased.map Unreleased.line, ¬ v.heads line) ↔ v ∉ m.unreleasedVersions := by
  simp [unreleasedVersions]

/-! ### The unreleased section of a printed matrix -/

/-- The lines at the beginning that are indented by two spaces, without the indent. -/
def indentedLines : List (List Char) → List (List Char)
  | [] => []
  | line :: rest =>
    match behind? "  ".toList line with
    | some inner => inner :: indentedLines rest
    | none => []

/-- The unreleased section of a printed matrix: the indented lines behind the line `unreleased:`. -/
def unreleasedSection (output : String) : List String :=
  (indentedLines (((pieces '\n' output.toList).dropWhile (· ≠ "unreleased:".toList)).drop 1)).map
    String.ofList

/-- Indented lines are read off a text up to the first line that begins with another letter. -/
theorem indentedLines_pieces {letter : Char} {lines : List (List Char)} (behind : List Char)
    (hlines : ∀ line ∈ lines, '\n' ∉ line) (hspace : letter ≠ ' ') (hnewline : letter ≠ '\n') :
    indentedLines (pieces '\n'
      (lines.flatMap (fun line => "  ".toList ++ line ++ ['\n']) ++ letter :: behind)) = lines := by
  induction lines with
  | nil =>
    rw [List.flatMap_nil, List.nil_append, pieces, if_neg hnewline]
    split <;> simp [indentedLines, behind?, hspace.symm]
  | cons line lines ih =>
    have hline : '\n' ∉ "  ".toList ++ line := by simp [hlines line]
    rw [List.flatMap_cons, List.append_assoc, List.append_assoc, List.singleton_append,
      pieces_append _ hline, indentedLines, behind?_append,
      ih fun other hother => hlines other (List.mem_cons_of_mem line hother)]

namespace Report

/-- The unreleased versions stand indented behind a line of their own, and the next line is not
indented. -/
theorem exists_text_eq (r : Report) : ∃ behind,
    r.text = "current: " ++ r.current.text ++ "\nunreleased:\n" ++
      String.join (r.unreleased.map fun u => "  " ++ u.line ++ "\n") ++
      ("released: " ++ behind) := by
  refine ⟨joinVersions r.released ++ "\n" ++
    String.join (r.lists.tail.map fun row => row.1 ++ ": " ++ joinVersions row.2 ++ "\n"), ?_⟩
  have hname : "released: " = "released" ++ ": " := by decide
  rw [text, lists, hname]
  simp only [List.map_cons, List.tail_cons, String.join_cons, String.append_assoc]

/-- The section of a printed report has the lines of its unreleased versions, in their order. -/
theorem unreleasedSection_text (r : Report) (h : ∀ u ∈ r.unreleased, '\n' ∉ u.line.toList) :
    unreleasedSection r.text = r.unreleased.map Unreleased.line := by
  obtain ⟨behind, htext⟩ := r.exists_text_eq
  have hchars : r.text.toList = ("current: ".toList ++ r.current.text.toList) ++ '\n' ::
      ("unreleased:".toList ++ '\n' ::
        ((r.unreleased.map fun u => u.line.toList).flatMap
            (fun line => "  ".toList ++ line ++ ['\n']) ++
          'r' :: ("eleased: ".toList ++ behind.toList))) := by
    rw [htext]
    simp [String.toList_join, List.flatMap_map]
  have hcurrent : '\n' ∉ "current: ".toList ++ r.current.text.toList := by
    simp [r.current.newline_not_mem_text]
  have hlines : ∀ line ∈ r.unreleased.map fun u => u.line.toList, '\n' ∉ line := by
    simpa using h
  rw [unreleasedSection, hchars, pieces_append _ hcurrent, pieces_append _ (by decide),
    List.dropWhile_cons_of_pos (by simp), List.dropWhile_cons_of_neg (by simp),
    List.drop_one, List.tail_cons, indentedLines_pieces _ hlines (by decide) (by decide)]
  simp [Function.comp_def]

example : unreleasedSection "current: 2.0.0\nunreleased:\n  2.0.0 main :distribution\nreleased:\n" =
    ["2.0.0 main :distribution"] := by
  rfl

end Report

theorem OnBranch.newline_not_mem {lines : RetainedLines} {current v : Version} {trunk b : String}
    (h : OnBranch lines current trunk v b) (htrunk : '\n' ∉ trunk.toList) : '\n' ∉ b.toList := by
  have hdigits : ∀ n, '\n' ∉ Nat.toDigits 10 n := not_mem_toDigits (by decide)
  cases h with
  | trunk => exact htrunk
  | major => simp [Version.toList_majorBranch, hdigits]
  | minor => simp [Version.toList_minorBranch, hdigits]

/-- An unreleased version is shown on one line, unless the name of the trunk has more. -/
theorem Matrix.Built.newline_not_mem_line {declared : SortedSet Version} {current : Version}
    {p : Policy} {m : Matrix} (h : Built declared current p m)
    (htrunk : '\n' ∉ p.trunkBranch.toList) {u : Unreleased} (hu : u ∈ m.unreleased) :
    '\n' ∉ u.line.toList := by
  have hbranch := (h.onBranch hu).newline_not_mem htrunk
  have hproject : '\n' ∉ u.project.path.toList := by
    cases u.project <;> decide
  simp [Unreleased.line, u.version.newline_not_mem_text, hbranch, hproject]

namespace Command

variable {config : String} {command : Command} {variableValue : Option String}
  {around : Surroundings} {m : Matrix}

/-- The commands on a config that need nothing but its matrix before they do what is their own. -/
inductive OnMatrix (config : String) : Command → Prop where
  /-- The matrix itself, in either form. -/
  | matrix (format : OutputFormat) : OnMatrix config (.matrix config format)
  /-- The look-up of any version. -/
  | info (v : Version) : OnMatrix config (.info config v)
  /-- The unreleased versions other than the current one, of all projects. -/
  | previousUnreleased : OnMatrix config (.previousUnreleased config none)
  /-- The check with a file that is given. -/
  | check (published : String) : OnMatrix config (.check config (some published))

theorem script_matrix (config : String) (format : OutputFormat) :
    (matrix config format).script variableValue =
      Config.matrixAt config variableValue >>= fun m => put (m.report.render format) :=
  (LawfulMonad.bind_assoc _ _ _).symm

theorem script_info (config : String) (v : Version) :
    (info config v).script variableValue =
      Config.matrixAt config variableValue >>= fun m => ofExcept (m.describe v) >>= put :=
  (LawfulMonad.bind_assoc _ _ _).symm

theorem script_previousUnreleased (config : String) :
    (previousUnreleased config none).script variableValue =
      Config.matrixAt config variableValue >>= fun m => put (m.listPrevious none) := by
  show (Config.load config >>= fun settings => settings.loadMatrix variableValue >>= fun m =>
    put (m.listPrevious none)) = _
  exact (LawfulMonad.bind_assoc _ _ _).symm

theorem script_check (config published : String) :
    (check config (some published)).script variableValue =
      Config.matrixAt config variableValue >>= fun m =>
        (m.check published).mapError .check >>= fun _ => put "released versions are consistent\n" :=
  (LawfulMonad.bind_assoc _ _ _).symm

theorem OnMatrix.exists_script_eq (h : OnMatrix config command) : ∃ next,
    command.script variableValue = Config.matrixAt config variableValue >>= next := by
  cases h with
  | matrix format => exact ⟨_, script_matrix config format⟩
  | info v => exact ⟨_, script_info config v⟩
  | previousUnreleased => exact ⟨_, script_previousUnreleased config⟩
  | check published => exact ⟨_, script_check config published⟩

/-- Without a matrix these commands fail with the reason why there is none. -/
theorem OnMatrix.run_of_error (h : OnMatrix config command) {reason : Failure}
    (hreason : (Config.matrixAt config variableValue).result around = .error reason) :
    (command.script variableValue).run around = ("", .error reason) := by
  obtain ⟨next, hnext⟩ := h.exists_script_eq
  rw [hnext, Config.run_matrixAt_bind, hreason]

/-- The matrix can be shown exactly if there is one. -/
theorem result_matrix_eq_error_iff {format : OutputFormat} {reason : Failure} :
    ((matrix config format).script variableValue).result around = .error reason ↔
      (Config.matrixAt config variableValue).result around = .error reason := by
  rw [result, script_matrix, Config.run_matrixAt_bind]
  split <;> simp_all

theorem result_matrix_eq_ok_iff {format : OutputFormat} :
    ((matrix config format).script variableValue).result around = .ok () ↔
      ∃ m, (Config.matrixAt config variableValue).result around = .ok m := by
  rw [result, script_matrix, Config.run_matrixAt_bind]
  split <;> simp_all

/-- What the commands on a config print, told by some lines, of which a version is listed in those
that begin with it and a space. -/
structure ToldBy (lines : List String) (config : String) (variableValue : Option String)
    (around : Surroundings) (declared : SortedSet Version) (m : Matrix) : Prop where
  /-- The look-up of a listed version prints its line. -/
  listed : ∀ v, ∀ line ∈ lines, v.heads line →
    ((info config v).script variableValue).run around = (line ++ "\n", .ok ())
  /-- Any other version that is declared on a retained major is called released. -/
  released : ∀ v, (∀ line ∈ lines, ¬ v.heads line) → m.policy.Keeps declared m.current v →
    ((info config v).script variableValue).run around = (v.text ++ " is released\n", .ok ())
  /-- The look-up of any further version fails. -/
  unknown : ∀ v, (∀ line ∈ lines, ¬ v.heads line) → ¬ m.policy.Keeps declared m.current v →
    ((info config v).script variableValue).run around = ("", .error (.notRetained v m.current))
  /-- The previous unreleased versions are shown by the lines but that of the current version, in
  their order. -/
  previous : ((previousUnreleased config none).script variableValue).run around =
    (String.join ((lines.filter fun line => ¬ m.current.heads line).map (· ++ "\n")), .ok ())

/-- What the commands on a config print when its matrix is made: they show the same unreleased
versions by the same lines. -/
structure Shown (config : String) (variableValue : Option String) (around : Surroundings)
    (declared : SortedSet Version) (m : Matrix) : Prop where
  /-- The text of the matrix has a section with an indented line for each unreleased version. -/
  text : ∃ behind, ((matrix config .text).script variableValue).run around =
    ("current: " ++ m.current.text ++ "\nunreleased:\n" ++
      String.join (m.unreleased.map fun u => "  " ++ u.line ++ "\n") ++ ("released: " ++ behind),
      .ok ())
  /-- If the name of the trunk has no newline, these lines are read off the text. -/
  unreleasedSection_eq : '\n' ∉ m.policy.trunkBranch.toList →
    unreleasedSection (((matrix config .text).script variableValue).output around) =
      m.unreleased.map Unreleased.line
  /-- The matrix is shown as JSON, too. -/
  json : ((matrix config .json).script variableValue).run around =
    (m.report.json.pretty ++ "\n", .ok ())
  /-- Each unreleased version has one line. -/
  once : m.unreleasedVersions.Nodup
  /-- The look-up of an unreleased version prints its line. -/
  listed : ∀ u ∈ m.unreleased,
    ((info config u.version).script variableValue).run around = (u.line ++ "\n", .ok ())
  /-- Any other version that is declared on a retained major is called released. -/
  released : ∀ v, v ∉ m.unreleasedVersions → m.policy.Keeps declared m.current v →
    ((info config v).script variableValue).run around = (v.text ++ " is released\n", .ok ())
  /-- The look-up of any further version fails. -/
  unknown : ∀ v, v ∉ m.unreleasedVersions → ¬ m.policy.Keeps declared m.current v →
    ((info config v).script variableValue).run around = ("", .error (.notRetained v m.current))
  /-- The previous unreleased versions are the lines of the section but that of the current one. -/
  previous : ((previousUnreleased config none).script variableValue).run around =
    (String.join ((m.unreleased.filter fun u => u.version ≠ m.current).map fun u => u.line ++ "\n"),
      .ok ())
  /-- What the other commands print is told by the lines of the section alone. -/
  told : ToldBy (m.unreleased.map Unreleased.line) config variableValue around declared m

variable {declared : SortedSet Version}

/-- So the printed section tells what the other commands print. -/
theorem Shown.toldBy_unreleasedSection (h : Shown config variableValue around declared m)
    (htrunk : '\n' ∉ m.policy.trunkBranch.toList) :
    ToldBy (unreleasedSection (((matrix config .text).script variableValue).output around))
      config variableValue around declared m := by
  rw [h.unreleasedSection_eq htrunk]
  exact h.told

theorem run_matrix (hmatrix : (Config.matrixAt config variableValue).result around = .ok m)
    (format : OutputFormat) : ((matrix config format).script variableValue).run around =
      (m.report.render format, .ok ()) := by
  rw [script_matrix, Config.run_matrixAt_bind, hmatrix]
  exact run_put _ _

theorem run_info (hmatrix : (Config.matrixAt config variableValue).result around = .ok m)
    (v : Version) : ((info config v).script variableValue).run around =
      match m.describe v with
      | .ok text => (text, .ok ())
      | .error reason => ("", .error reason) := by
  rw [script_info, Config.run_matrixAt_bind, hmatrix]
  cases hdescribe : m.describe v <;> simp [run_bind, hdescribe]

theorem run_previousUnreleased
    (hmatrix : (Config.matrixAt config variableValue).result around = .ok m) :
    ((previousUnreleased config none).script variableValue).run around =
      (String.join ((m.unreleased.filter fun u => u.version ≠ m.current).map
        fun u => u.line ++ "\n"), .ok ()) := by
  rw [script_previousUnreleased, Config.run_matrixAt_bind, hmatrix]
  simp [Matrix.listPrevious, Matrix.previousUnreleased]

section OfMatrix

variable (hmatrix : (Config.matrixAt config variableValue).result around = .ok m)
  (h : Matrix.Built declared m.current m.policy m) {v : Version}

include hmatrix h

theorem run_info_of_mem {u : Unreleased} (hu : u ∈ m.unreleased) :
    ((info config u.version).script variableValue).run around = (u.line ++ "\n", .ok ()) := by
  rw [run_info hmatrix, h.describe_of_mem hu]

theorem run_info_of_keeps (hv : v ∉ m.unreleasedVersions)
    (hkeeps : m.policy.Keeps declared m.current v) :
    ((info config v).script variableValue).run around = (v.text ++ " is released\n", .ok ()) := by
  rw [run_info hmatrix, h.describe_of_keeps hv hkeeps]

theorem run_info_of_not_keeps (hv : v ∉ m.unreleasedVersions)
    (hkeeps : ¬ m.policy.Keeps declared m.current v) :
    ((info config v).script variableValue).run around =
      ("", .error (.notRetained v m.current)) := by
  rw [run_info hmatrix, h.describe_of_not_keeps hv hkeeps]

theorem toldBy_of_matrix :
    ToldBy (m.unreleased.map Unreleased.line) config variableValue around declared m where
  listed v line hline hheads := by
    obtain ⟨u, hu, rfl⟩ := List.mem_map.1 hline
    obtain rfl : u.version = v := by simpa using hheads
    exact run_info_of_mem hmatrix h hu
  released _ hlines hkeeps :=
    run_info_of_keeps hmatrix h (Matrix.forall_not_heads_iff.1 hlines) hkeeps
  unknown _ hlines hkeeps :=
    run_info_of_not_keeps hmatrix h (Matrix.forall_not_heads_iff.1 hlines) hkeeps
  previous := by
    rw [run_previousUnreleased hmatrix, List.filter_map, List.map_map]
    simp [Function.comp_def]

theorem shown_of_matrix : Shown config variableValue around declared m where
  text := by
    obtain ⟨behind, hbehind⟩ := m.report.exists_text_eq
    refine ⟨behind, ?_⟩
    rw [run_matrix hmatrix, Report.render, hbehind]
    rfl
  unreleasedSection_eq htrunk := by
    rw [output, run_matrix hmatrix]
    exact m.report.unreleasedSection_text fun u hu => h.newline_not_mem_line htrunk hu
  json := run_matrix hmatrix .json
  once := h.nodup_unreleasedVersions
  listed _ hu := run_info_of_mem hmatrix h hu
  released _ hv hkeeps := run_info_of_keeps hmatrix h hv hkeeps
  unknown _ hv hkeeps := run_info_of_not_keeps hmatrix h hv hkeeps
  previous := run_previousUnreleased hmatrix
  told := toldBy_of_matrix hmatrix h

end OfMatrix

/-- **The commands agree**, whatever the path, the files and the environment. If the matrix of a
config cannot be shown, the look-up of any version, the list of previous unreleased versions and the
check with a given file all fail with the same reason, and print nothing. If it can, it is the
matrix of the declared versions, and what the commands print agrees with it. -/
theorem agreement (config : String) (variableValue : Option String) (around : Surroundings) :
    (∀ format reason,
      ((matrix config format).script variableValue).result around = .error reason →
      ∀ command, OnMatrix config command →
        (command.script variableValue).run around = ("", .error reason)) ∧
    ∀ format, ((matrix config format).script variableValue).result around = .ok () →
      ∃ settings current source m,
        (Config.load config).result around = .ok settings ∧
        (settings.versions.resolveCurrent variableValue).result around = .ok current ∧
        around.files settings.versions.declarations = .ok source ∧
        Matrix.ofSource source current settings.policy = .ok m ∧
        Shown config variableValue around (Declaration.ofSource source) m := by
  refine ⟨fun format reason hreason command hcommand => ?_, fun format hformat => ?_⟩
  · exact hcommand.run_of_error (result_matrix_eq_error_iff.1 hreason)
  · obtain ⟨m, hmatrix⟩ := result_matrix_eq_ok_iff.1 hformat
    obtain ⟨settings, current, source, hsettings, hcurrent, hsource, hm⟩ :=
      Config.result_matrixAt_eq_ok_iff.1 hmatrix
    have hbuilt := Matrix.build_eq_ok_iff.1 hm
    rw [← hbuilt.current_eq, ← hbuilt.policy_eq] at hbuilt
    exact ⟨settings, current, source, m, hsettings, hcurrent, hsource, hm,
      shown_of_matrix hmatrix hbuilt⟩

end Command

end ReleaseMatrix
