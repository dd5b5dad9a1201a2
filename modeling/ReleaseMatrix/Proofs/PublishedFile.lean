import ReleaseMatrix.Proofs.Verdict

/-!
# Files of published versions

A file that lists published versions has one version on a line, in the form in which versions are
written everywhere else. `Published.Lists` says which texts list which versions, with the blank
lines and comments that may stand between them, and with white space around the versions. Such a
file is read back as its versions, so the released versions of a matrix, written to a file in any
order and any number of times, pass the check of that matrix; and if unreleased versions stand in
the file as well, the check names exactly these.

## What is proved

* `Published.ofText_of_lists`: a text that lists versions is read as these versions.
* `Matrix.check_listed`: the check of a matrix with a file that lists its released versions, alone
  or with some of its unreleased ones.
-/

namespace ReleaseMatrix

open Text

namespace Published

/-! ### The texts that list versions -/

/-- White space within a line. -/
def IsSpace (w : List Char) : Prop := ∀ c ∈ w, isBlank c ∧ c ≠ '\n'

/-- One line of a file, with the version that stands on it. -/
inductive Line : Option Version → List Char → Prop where
  /-- A version, with white space around it. -/
  | version {before behind : List Char} (v : Version) (hbefore : IsSpace before)
      (hbehind : IsSpace behind) : Line (some v) (before ++ v.text.toList ++ behind)
  /-- A blank line. -/
  | blank {space : List Char} (hspace : IsSpace space) : Line none space
  /-- A comment, which begins with `#`. -/
  | comment {before words : List Char} (hbefore : IsSpace before) (hwords : '\n' ∉ words) :
      Line none (before ++ '#' :: words)

/-- A text with a version, a comment or nothing on each line. The last line may end with a newline
or without one. -/
inductive Lists : List Version → List Char → Prop where
  /-- The last line. -/
  | last {v? : Option Version} {line : List Char} (h : Line v? line) : Lists v?.toList line
  /-- A line with more lines behind it. -/
  | line {v? : Option Version} {line rest : List Char} {versions : List Version}
      (h : Line v? line) (more : Lists versions rest) :
      Lists (v?.toList ++ versions) (line ++ '\n' :: rest)

/-! ### Reading them -/

variable {v? : Option Version} {line text : List Char} {versions : List Version}

theorem IsSpace.newline_not_mem {w : List Char} (h : IsSpace w) : '\n' ∉ w :=
  fun hmem => (h _ hmem).2 rfl

theorem IsSpace.isBlank {w : List Char} (h : IsSpace w) : ∀ c ∈ w, Text.isBlank c :=
  fun c hc => (h c hc).1

theorem Line.newline_not_mem (h : Line v? line) : '\n' ∉ line := by
  cases h with
  | version v hbefore hbehind =>
    simp [hbefore.newline_not_mem, hbehind.newline_not_mem, v.newline_not_mem_text]
  | blank hspace => exact hspace.newline_not_mem
  | comment hbefore hwords => simp [hbefore.newline_not_mem, hwords]

theorem Line.trim_eq_text {v : Version} (h : Line (some v) line) : trim line = v.text.toList := by
  cases h with
  | version _ hbefore hbehind =>
    rw [trim_append_right hbehind.isBlank, trim_append_left hbefore.isBlank,
      trim_eq_self fun _ => Version.not_isBlank_of_mem_text]

/-- Blank lines and comments are passed over. -/
theorem Line.not_isListed (h : Line none line) : isListed (trim line) = false := by
  cases h with
  | blank hspace =>
    rw [trim_eq_nil hspace.isBlank]
    rfl
  | comment hbefore =>
    rw [trim_append_left hbefore.isBlank, trim_cons _ (by decide)]
    rfl

/-- An empty line holds no version. -/
theorem Line.eq_none (h : Line v? []) : v? = none := by
  cases v? with
  | none => rfl
  | some v => simpa [Version.toList_text] using h.trim_eq_text

/-- A version is listed: its text is neither empty nor a comment. -/
theorem isListed_text (v : Version) : isListed v.text.toList = true := by
  have hne : v.text.toList ≠ [] := by simp [Version.toList_text]
  have hhead : v.text.toList.head? ≠ some '#' := by
    intro h
    rcases Version.isDigit_or_eq_point (List.mem_of_head? h) with hdigit | hpoint
    · cases hdigit
    · cases hpoint
  simp only [isListed, hne, hhead, ne_eq, not_false_eq_true, decide_true, Bool.and_self]

/-- Reads the versions on some lines, of which the first has a number. -/
def ofLines (number : Nat) (lines : List (List Char)) : Except PublishedError (List Version) :=
  (((lines.map trim).zipIdx number).filter fun entry => isListed entry.1).mapM
    fun (line, number) => (Version.ofText (String.ofList line)).mapError (.malformed number)

section

variable {number : Nat} {line : List Char} {rest : List (List Char)}

theorem ofLines_of_not_isListed (h : ¬ isListed (trim line)) :
    ofLines number (line :: rest) = ofLines (number + 1) rest := by
  rw [ofLines, List.map_cons, List.zipIdx_cons, List.filter_cons, if_neg h]
  rfl

theorem ofLines_of_isListed (h : isListed (trim line)) :
    ofLines number (line :: rest) = (do
      let v ← (Version.ofText (String.ofList (trim line))).mapError (.malformed number)
      let versions ← ofLines (number + 1) rest
      return v :: versions) := by
  rw [ofLines, List.map_cons, List.zipIdx_cons, List.filter_cons, if_pos h, List.mapM_cons]
  rfl

/-- A line adds its version to those on the lines behind it. -/
theorem ofLines_cons {line' : List Char} (h : Line v? line) (htrim : trim line' = trim line)
    (hrest : ofLines (number + 1) rest = .ok versions) :
    ofLines number (line' :: rest) = .ok (v?.toList ++ versions) := by
  cases v? with
  | none =>
    rw [ofLines_of_not_isListed (by simp [htrim, h.not_isListed]), hrest]
    rfl
  | some v =>
    have hv : Version.ofText (String.ofList (trim line')) = .ok v := by
      rw [htrim, h.trim_eq_text, String.ofList_toList, Version.ofText_text]
    have hlisted : isListed (trim line') := by
      rw [htrim, h.trim_eq_text, isListed_text]
    rw [ofLines_of_isListed hlisted, hv, hrest]
    rfl

end

theorem ofLines_lines (h : Lists versions text) (number : Nat) :
    ofLines number (lines text) = .ok versions := by
  induction h generalizing number with
  | @last v? line h =>
    by_cases hempty : line = []
    · subst hempty
      rw [h.eq_none]
      rfl
    · rw [lines_of_not_mem h.newline_not_mem hempty]
      have hnone : ofLines (number + 1) [] = .ok [] := rfl
      simpa using ofLines_cons h rfl hnone
  | line h _ ih =>
    rw [lines_append_newline _ h.newline_not_mem]
    exact ofLines_cons h (trim_withoutReturn _) (ih (number + 1))

/-- A text that lists versions is read as these versions, in the order of the lines. -/
theorem ofText_of_lists {text : String} (h : Lists versions text.toList) :
    ofText text = .ok versions := ofLines_lines h 1

/-- A readable file lists what its text does. -/
theorem run_read {around : Surroundings} {path text : String}
    (hfile : around.files path = .ok text) : (read path).run around = ("", ofText text) := by
  simp only [read, Script.run_bind, Script.run_readFile, hfile, Except.mapError,
    Script.run_ofExcept, String.append_empty]

end Published

/-! ### The check with such a file -/

namespace Matrix

variable {declared : SortedSet Version} {current v : Version} {p : Policy} {m : Matrix}
  {around : Surroundings} {path text : String} {listed : List Version} {early : Set Version}

/-- The check with a file that lists versions is the comparison with these versions. -/
theorem run_check (m : Matrix) (hfile : around.files path = .ok text)
    (hlists : Published.Lists listed text.toList) :
    (m.check path).run around = ("", (m.compare listed).mapError .outOfDate) := by
  have hread : (Published.read path).run around = ("", .ok listed) := by
    rw [Published.run_read hfile, Published.ofText_of_lists hlists]
  simp only [check, Script.run_bind, Script.run_mapError, hread, Except.mapError,
    Script.run_ofExcept, String.append_empty]

/-- Unreleased versions that stand beside the released ones are the published ones among the
unreleased. -/
theorem mem_unreleasedVersions_and_mem_listed (h : Built declared current p m)
    (hearly : ∀ v ∈ early, v ∈ m.unreleasedVersions)
    (hlisted : ∀ v, v ∈ listed ↔ v ∈ m.released ∨ v ∈ early) :
    v ∈ m.unreleasedVersions ∧ v ∈ listed ↔ v ∈ early := by
  constructor
  · rintro ⟨hunreleased, hmem⟩
    refine ((hlisted v).1 hmem).resolve_left fun hreleased => ?_
    exact (h.mem_released.1 hreleased).2.1 hunreleased
  · intro hv
    exact ⟨hearly v hv, (hlisted v).2 (.inr hv)⟩

theorem agrees_listed_iff (h : Built declared current p m)
    (hearly : ∀ v ∈ early, v ∈ m.unreleasedVersions)
    (hlisted : ∀ v, v ∈ listed ↔ v ∈ m.released ∨ v ∈ early) :
    m.Agrees listed ↔ early = ∅ := by
  rw [Set.eq_empty_iff_forall_notMem]
  constructor
  · intro hagrees v hv
    exact hagrees.unreleased v (hearly v hv) ((hlisted v).2 (.inr hv))
  · intro hempty
    refine ⟨fun v hv => (hlisted v).2 (.inl hv), fun v hv hmem => ?_⟩
    exact hempty v ((mem_unreleasedVersions_and_mem_listed h hearly hlisted).1 ⟨hv, hmem⟩)

/-- **The released versions of a matrix pass its own check.** Let a file list the released versions
of a matrix, in any order and any number of times, together with some of its unreleased versions.
If there are none of these, the check succeeds. If there are, it fails, and names no version as not
published and exactly these, in release order, as published. -/
theorem check_listed (h : build declared current p = .ok m)
    (hearly : ∀ v ∈ early, v ∈ m.unreleasedVersions)
    (hlisted : ∀ v, v ∈ listed ↔ v ∈ m.released ∨ v ∈ early)
    (hfile : around.files path = .ok text) (hlists : Published.Lists listed text.toList) :
    (early = ∅ → (m.check path).run around = ("", .ok ())) ∧
    (early.Nonempty → ∃ named, (m.check path).run around =
        ("", .error (.outOfDate { notPublished := [], published := named })) ∧
      named.Pairwise p.Precedes ∧ ∀ v, v ∈ named ↔ v ∈ early) := by
  have hbuilt := build_eq_ok_iff.1 h
  rw [run_check m hfile hlists]
  constructor
  · intro hempty
    rw [compare_eq_ok_iff.2 ((agrees_listed_iff hbuilt hearly hlisted).2 hempty)]
    rfl
  · intro hsome
    have hnot : ¬ m.Agrees listed := by
      rw [agrees_listed_iff hbuilt hearly hlisted]
      exact hsome.ne_empty
    have hnames := hbuilt.exhausts_disagreement listed
    have hnil : (m.disagreement listed).notPublished = [] := by
      refine List.eq_nil_iff_forall_not_mem.2 fun v hv => ?_
      obtain ⟨hreleased, hmissing⟩ := (hnames.mem_notPublished v).1 hv
      exact hmissing ((hlisted v).2 (.inl hreleased))
    refine ⟨(m.disagreement listed).published, ?_, ?_, fun v => ?_⟩
    · rw [compare_eq_error_iff.2 ⟨hnot, rfl⟩, ← hnil]
      rfl
    · exact hbuilt.policy_eq ▸ hnames.published_ordered
    · exact (hnames.mem_published v).trans
        (mem_unreleasedVersions_and_mem_listed hbuilt hearly hlisted)

/-- A file with a comment, a blank line, a carriage return, a repetition and no order, in which
2.0.1 and 1.3.1 are listed although they are in development. -/
def earlyListing : String :=
  "# central\n2.0.1\n2.0.0\r\n\n 1.2.0\n1.3.0\n1.3.1\n1.2.0"

/-- The two versions that are listed too early are named, the older one first. -/
theorem check_listed_continuedLines :
    ∃ m, build continuedLines (.of 2 1 0) .standard = .ok m ∧
      (m.check "published.txt").run ⟨fun _ => .ok earlyListing, fun _ => none⟩ =
        ("", .error (.outOfDate ⟨[], [.of 1 3 1, .of 2 0 1]⟩)) := by
  obtain ⟨m, h, hreleased, hunreleased⟩ : ∃ m, build continuedLines (.of 2 1 0) .standard = .ok m ∧
      m.released = [.of 1 2 0, .of 1 3 0, .of 2 0 0] ∧
      m.unreleasedVersions = [.of 1 3 1, .of 2 0 1, .of 2 1 0] := ⟨_, rfl, rfl, rfl⟩
  have hnone : Published.IsSpace [] := fun _ hc => nomatch hc
  have hspace : Published.IsSpace [' '] := List.forall_mem_singleton.2 (by decide)
  have hreturn : Published.IsSpace ['\r'] := List.forall_mem_singleton.2 (by decide)
  have hcomment : Published.Line none "# central".toList :=
    .comment hnone (by decide : '\n' ∉ " central".toList)
  have hlists : Published.Lists
      [.of 2 0 1, .of 2 0 0, .of 1 2 0, .of 1 3 0, .of 1 3 1, .of 1 2 0] earlyListing.toList :=
    .line hcomment <| .line (.version (.of 2 0 1) hnone hnone) <|
      .line (.version (.of 2 0 0) hnone hreturn) <| .line (.blank hnone) <|
      .line (.version (.of 1 2 0) hspace hnone) <| .line (.version (.of 1 3 0) hnone hnone) <|
      .line (.version (.of 1 3 1) hnone hnone) <| .last (.version (.of 1 2 0) hnone hnone)
  have hearly : ∀ v ∈ ({.of 1 3 1, .of 2 0 1} : Set Version), v ∈ m.unreleasedVersions := by
    rw [hunreleased]
    rintro v (rfl | rfl) <;> decide
  have hlisted : ∀ v, v ∈ [.of 2 0 1, .of 2 0 0, .of 1 2 0, .of 1 3 0, .of 1 3 1, .of 1 2 0] ↔
      v ∈ m.released ∨ v ∈ ({.of 1 3 1, .of 2 0 1} : Set Version) := by
    intro v
    simp only [hreleased, List.mem_cons, List.not_mem_nil, or_false, Set.mem_insert_iff,
      Set.mem_singleton_iff]
    tauto
  have hfile : (⟨fun _ => .ok earlyListing, fun _ => none⟩ : Surroundings).files "published.txt" =
      .ok earlyListing := rfl
  obtain ⟨named, hrun, hordered, hmem⟩ :=
    (check_listed h hearly hlisted hfile hlists).2 ⟨.of 1 3 1, .inl rfl⟩
  have hnamed : named = [.of 1 3 1, .of 2 0 1] :=
    eq_of_pairwise_of_mem_iff hordered (by decide) fun v => by simp [hmem]
  exact ⟨m, h, by rw [hrun, hnamed]⟩

end Matrix

end ReleaseMatrix
