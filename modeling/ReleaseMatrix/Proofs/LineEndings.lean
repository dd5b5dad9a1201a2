import ReleaseMatrix.Proofs.Output

/-!
# Line endings do not matter

Some systems end a line in a carriage return and a newline instead of a newline alone, and a source
tree may be checked out in either form. `Text.withReturns` turns the one form into the other. The
result has the same lines, so whatever is read line by line is read from it as before: the
declarations, which are not trimmed, the published versions with the number of the first line that
is none, and the properties. A YAML text is not read by its lines, but takes the two characters for
one line break, so the same holds of the config.

The files of a build may even be mixed. Surroundings that differ in the line endings of any of
their files (`Surroundings.SameButReturns`) are the same to every command: it prints the same, and a
failure has the same reason.

## What is proved

* `Text.lines_withReturns`, `Yaml.joinReturns_withReturns`: what becomes of the lines and of the
  line breaks of a text.
* `Script.run_readFile_bind_of_sameButReturns`: a script that reads a file and goes on from the text
  in a way that line endings do not matter to.
* `Command.run_eq_of_sameButReturns`: what is read from texts, files and by commands.
-/

namespace ReleaseMatrix

/-! ### Texts with other line endings -/

namespace Text

/-- The text with a carriage return before every newline. -/
def withReturns (s : List Char) : List Char :=
  s.flatMap fun c => if c = '\n' then ['\r', '\n'] else [c]

variable {s : List Char}

@[simp] theorem withReturns_nil : withReturns [] = [] := rfl

@[simp] theorem withReturns_newline (s : List Char) :
    withReturns ('\n' :: s) = '\r' :: '\n' :: withReturns s := rfl

theorem withReturns_cons {c : Char} (s : List Char) (h : c ≠ '\n') :
    withReturns (c :: s) = c :: withReturns s := by
  rw [withReturns, List.flatMap_cons, if_neg h]
  rfl

/-- Every line ends where it ended before. -/
theorem lines_withReturns (h : '\r' ∉ s) : lines (withReturns s) = lines s := by
  induction s with
  | nil => rfl
  | cons c s ih =>
    obtain ⟨hc, hs⟩ := not_or.1 (fun hmem => h (List.mem_cons.2 hmem))
    by_cases hnewline : c = '\n'
    · subst hnewline
      rw [withReturns_newline, lines_return_newline, lines_newline, ih hs]
    · rw [withReturns_cons s hnewline, lines_cons _ hnewline (Ne.symm hc),
        lines_cons _ hnewline (Ne.symm hc), ih hs]

end Text

/-- The two characters are one line break, as the newline was. -/
theorem Yaml.joinReturns_withReturns {s : List Char} (h : '\r' ∉ s) :
    joinReturns (Text.withReturns s) = joinReturns s := by
  induction s with
  | nil => rfl
  | cons c s ih =>
    obtain ⟨hc, hs⟩ := not_or.1 (fun hmem => h (List.mem_cons.2 hmem))
    have hcons (rest : List Char) : joinReturns (c :: rest) = c :: joinReturns rest := by
      rw [joinReturns]
      exact fun _ hreturn _ => hc hreturn.symm
    by_cases hnewline : c = '\n'
    · subst hnewline
      rw [Text.withReturns_newline, joinReturns, ih hs, hcons]
    · rw [Text.withReturns_cons s hnewline, hcons, hcons, ih hs]

/-- The text with a carriage return before every newline. -/
def textWithReturns (text : String) : String := String.ofList (Text.withReturns text.toList)

/-- A text in which every newline ends a line alone. -/
def HasNoReturn (text : String) : Prop := '\r' ∉ text.toList

section

variable {text : String}

theorem linesOf_textWithReturns (h : HasNoReturn text) :
    Text.linesOf (textWithReturns text) = Text.linesOf text := by
  rw [Text.linesOf, textWithReturns, String.toList_ofList, Text.lines_withReturns h, Text.linesOf]

theorem Declaration.ofSource_textWithReturns (h : HasNoReturn text) :
    ofSource (textWithReturns text) = ofSource text := by
  rw [ofSource, linesOf_textWithReturns h, ofSource]

/-- The lines keep their numbers, too. -/
theorem Published.ofText_textWithReturns (h : HasNoReturn text) :
    ofText (textWithReturns text) = ofText text := by
  rw [ofText, listed, textWithReturns, String.toList_ofList, Text.lines_withReturns h]
  rfl

theorem Properties.value?_textWithReturns (h : HasNoReturn text) (key : String) :
    value? (textWithReturns text) key = value? text key := by
  rw [value?, entries, textWithReturns, String.toList_ofList, Text.lines_withReturns h]
  rfl

theorem Config.ofText?_textWithReturns (h : HasNoReturn text) :
    ofText? (textWithReturns text) = ofText? text := by
  have htokens : Yaml.tokens? (textWithReturns text) = Yaml.tokens? text := by
    rw [Yaml.tokens?, textWithReturns, String.toList_ofList, Yaml.joinReturns_withReturns h]
    rfl
  rw [ofText?, Yaml.read?, htokens]
  rfl

theorem Matrix.ofSource_textWithReturns (h : HasNoReturn text) (expected : Version) (p : Policy) :
    ofSource (textWithReturns text) expected p = ofSource text expected p := by
  rw [ofSource, Declaration.ofSource_textWithReturns h, ofSource]

end

/-! ### Files with other line endings -/

/-- The same is read, but perhaps with carriage returns before all newlines. -/
inductive SameButReturns : Except ReadError String → Except ReadError String → Prop where
  /-- The text is the same, or the reason why there is none. -/
  | same (read : Except ReadError String) : SameButReturns read read
  /-- The text has got a carriage return before every newline. -/
  | returns {text : String} (h : HasNoReturn text) :
      SameButReturns (.ok text) (.ok (textWithReturns text))

/-- Surroundings that differ in the line endings of some files. -/
def Surroundings.SameButReturns (around around' : Surroundings) : Prop :=
  ∀ path, ReleaseMatrix.SameButReturns (around.files path) (around'.files path)

namespace Script

variable {ε α β : Type} {around around' : Surroundings} {path : String} {s : Script ε α}

theorem run_bind_congr {f : α → Script ε β} (h : s.run around' = s.run around)
    (hf : ∀ a, (f a).run around' = (f a).run around) :
    (s >>= f).run around' = (s >>= f).run around := by
  rw [run_bind, run_bind, h]
  rcases s.run around with ⟨output, _ | a⟩
  · rfl
  · simp only [hf a]

/-- A result is the same everywhere. -/
theorem run_ofExcept_congr (r : Except ε α) :
    (ofExcept r).run around' = (ofExcept r).run around := by
  rw [run_ofExcept, run_ofExcept]

/-- A script that reads a file and goes on from the text in a way that line endings do not matter
to. -/
theorem run_readFile_bind_of_sameButReturns (h : around.SameButReturns around')
    {error : ReadError → ε} {f : String → Script ε β}
    (hf : ∀ text, HasNoReturn text → f (textWithReturns text) = f text)
    (hrun : ∀ text, (f text).run around' = (f text).run around) :
    (readFile path error >>= f).run around' = (readFile path error >>= f).run around := by
  rw [run_bind, run_bind, run_readFile, run_readFile]
  have hread := h path
  generalize around.files path = read, around'.files path = read' at hread
  cases hread with
  | same =>
    cases read with
    | error reason => rfl
    | ok text => simp only [Except.mapError, hrun]
  | returns htext => simp only [Except.mapError, hf _ htext, hrun]

theorem run_mapError_congr {ε' : Type} {f : ε → ε'} (h : s.run around' = s.run around) :
    (s.mapError f).run around' = (s.mapError f).run around := by
  rw [run_mapError, run_mapError, h]

end Script

section

open Script

variable {around around' : Surroundings}

theorem Published.run_read_of_sameButReturns (h : around.SameButReturns around') (path : String) :
    (read path).run around' = (read path).run around := by
  refine run_readFile_bind_of_sameButReturns h (fun text htext => ?_) fun text => ?_
  · rw [ofText_textWithReturns htext]
  · exact run_ofExcept_congr _

theorem Properties.run_read_of_sameButReturns (h : around.SameButReturns around')
    (path key : String) : (read path key).run around' = (read path key).run around := by
  refine run_readFile_bind_of_sameButReturns h (fun text htext => ?_) fun text => rfl
  rw [value?_textWithReturns htext]

theorem VersionSources.run_resolveCurrent_of_sameButReturns (h : around.SameButReturns around')
    (sources : VersionSources) (variableValue : Option String) :
    (sources.resolveCurrent variableValue).run around' =
      (sources.resolveCurrent variableValue).run around := by
  unfold resolveCurrent
  split
  · exact run_ofExcept_congr _
  · rfl
  · refine run_bind_congr (Properties.run_read_of_sameButReturns h _ _) fun value => ?_
    cases value with
    | none => rfl
    | some value => exact run_ofExcept_congr _
  · rfl

namespace Config

theorem run_load_of_sameButReturns (h : around.SameButReturns around') (path : String) :
    (load path).run around' = (load path).run around := by
  refine run_readFile_bind_of_sameButReturns h (fun text htext => ?_) fun text => ?_
  · rw [ofText?_textWithReturns htext]
  · cases ofText? text <;> rfl

theorem run_loadMatrix_of_sameButReturns (h : around.SameButReturns around') (config : Config)
    (variableValue : Option String) :
    (config.loadMatrix variableValue).run around' =
      (config.loadMatrix variableValue).run around := by
  refine run_bind_congr
    (config.versions.run_resolveCurrent_of_sameButReturns h variableValue) fun current => ?_
  refine run_readFile_bind_of_sameButReturns h (fun text htext => ?_) fun text => ?_
  · rw [Matrix.ofSource_textWithReturns htext]
  · exact run_ofExcept_congr _

end Config

theorem Matrix.run_check_of_sameButReturns (h : around.SameButReturns around') (m : Matrix)
    (path : String) : (m.check path).run around' = (m.check path).run around := by
  refine run_bind_congr (run_mapError_congr (Published.run_read_of_sameButReturns h path))
    fun published => ?_
  exact run_ofExcept_congr _

end

/-! ### Commands -/

namespace Command

open Script

variable {around around' : Surroundings}

/-- A command goes through its steps, none of which line endings matter to. -/
theorem run_script_of_sameButReturns (h : around.SameButReturns around') (command : Command)
    (variableValue : Option String) : (command.script variableValue).run around' =
      (command.script variableValue).run around := by
  cases command with
  | matrix config format =>
    refine run_bind_congr (Config.run_load_of_sameButReturns h config) fun settings => ?_
    exact run_bind_congr (settings.run_loadMatrix_of_sameButReturns h variableValue) fun m => rfl
  | info config version =>
    refine run_bind_congr (Config.run_load_of_sameButReturns h config) fun settings => ?_
    refine run_bind_congr (settings.run_loadMatrix_of_sameButReturns h variableValue) fun m => ?_
    exact run_bind_congr (run_ofExcept_congr _) fun text => rfl
  | previousUnreleased config path =>
    refine run_bind_congr (run_ofExcept_congr _) fun project => ?_
    refine run_bind_congr (Config.run_load_of_sameButReturns h config) fun settings => ?_
    exact run_bind_congr (settings.run_loadMatrix_of_sameButReturns h variableValue) fun m => rfl
  | check config given =>
    refine run_bind_congr (Config.run_load_of_sameButReturns h config) fun settings => ?_
    refine run_bind_congr (run_ofExcept_congr _) fun path => ?_
    refine run_bind_congr (settings.run_loadMatrix_of_sameButReturns h variableValue) fun m => ?_
    exact run_bind_congr (run_mapError_congr (m.run_check_of_sameButReturns h path)) fun _ => rfl

/-- **Line endings do not matter.** A text without carriage returns and the text that has one before
every newline declare the same versions, list the same published versions, or are refused on the
same line for the same reason, and give the same value to every key. So in surroundings that differ
in the line endings of some files the same is read from every file, the same matrix is made, with
the same verdict of its check, and every command prints the same and ends alike. -/
theorem run_eq_of_sameButReturns :
    (∀ text, HasNoReturn text →
      Declaration.ofSource (textWithReturns text) = Declaration.ofSource text ∧
      Published.ofText (textWithReturns text) = Published.ofText text ∧
      ∀ key, Properties.value? (textWithReturns text) key = Properties.value? text key) ∧
    ∀ around around' : Surroundings, around.SameButReturns around' →
      (∀ path, (Published.read path).run around' = (Published.read path).run around) ∧
      (∀ path key, (Properties.read path key).run around' =
        (Properties.read path key).run around) ∧
      (∀ (config : Config) variableValue, (config.loadMatrix variableValue).run around' =
        (config.loadMatrix variableValue).run around) ∧
      (∀ (m : Matrix) path, (m.check path).run around' = (m.check path).run around) ∧
      ∀ (command : Command) variableValue, (command.script variableValue).run around' =
        (command.script variableValue).run around :=
  ⟨fun _ h => ⟨Declaration.ofSource_textWithReturns h, Published.ofText_textWithReturns h,
      Properties.value?_textWithReturns h⟩,
    fun _ _ h => ⟨Published.run_read_of_sameButReturns h, Properties.run_read_of_sameButReturns h,
      Config.run_loadMatrix_of_sameButReturns h, Matrix.run_check_of_sameButReturns h,
      run_script_of_sameButReturns h⟩⟩

/-- The files of the first release with carriage returns, but for the one that declares it. -/
def firstReleaseWithReturns : Surroundings where
  files path :=
    if path = "Version.java" then firstRelease.files path
    else (firstRelease.files path).map textWithReturns
  environment _ := none

/-- The check reads all three files, and finds the version that is published too early. -/
theorem run_eq_of_sameButReturns_firstRelease :
    firstRelease.SameButReturns firstReleaseWithReturns ∧
    HasNoReturn "# central\n1.0.0\n" ∧
    Published.ofText "# central\r\n1.0.0\r\n" = .ok [.of 1 0 0] ∧
    ((check "bwc.yaml" (some "published.txt")).script none).run firstReleaseWithReturns =
      ("", .error (.check (.outOfDate ⟨[], [.of 1 0 0]⟩))) := by
  have hsame : firstRelease.SameButReturns firstReleaseWithReturns := by
    intro path
    by_cases hversions : path = "Version.java"
    · subst hversions
      exact .same _
    · have hfiles : firstReleaseWithReturns.files path =
          (firstRelease.files path).map textWithReturns := if_neg hversions
      rw [hfiles]
      unfold firstRelease
      dsimp only
      split
      · exact .returns (by simp [HasNoReturn])
      · exact .returns (by simp [HasNoReturn])
      · exact .returns (by simp [HasNoReturn])
      · exact .same _
  have htext : HasNoReturn "# central\n1.0.0\n" := by simp [HasNoReturn]
  have hpublished : Published.ofText "# central\n1.0.0\n" = .ok [.of 1 0 0] := by decide +kernel
  have hreturns : textWithReturns "# central\n1.0.0\n" = "# central\r\n1.0.0\r\n" := by
    decide +kernel
  have hrun : ((check "bwc.yaml" (some "published.txt")).script none).run firstRelease =
      ("", .error (.check (.outOfDate ⟨[], [.of 1 0 0]⟩))) := by
    decide +kernel
  obtain ⟨htexts, hfiles⟩ := run_eq_of_sameButReturns
  refine ⟨hsame, htext, ?_, ?_⟩
  · rw [← hreturns, (htexts _ htext).2.1, hpublished]
  · rw [(hfiles _ _ hsame).2.2.2.2, hrun]

end Command

end ReleaseMatrix
