import ReleaseMatrix.Proofs.FilePaths
import ReleaseMatrix.Proofs.Output

/-!
# Configs can be moved

The paths in a config are seen from the directory of its file. So a config can be moved into a
directory, and the files that it names with it: every command that succeeded still does, and prints
the same. This is so for paths that are made of names. A path like `../Version.java` leads out of
the directory, so that another file may be found there. An absolute path leads to the same file from
everywhere, and this file has to stay. A file that is given to the check beside the config is not
named by the config, and is seen from the working directory.

A command that is carried out with the two configs reads different paths, but finds the same texts.
`Script.Carries` compares two scripts, each in surroundings of its own: where the one succeeds, so
does the other, with the same output and a value that is related to the value of the first. The
relation is equality but for the settings, whose paths differ.

## What is proved

* `Script.Carries.bind`: the comparison of sequences of scripts.
* `Config.carries_load`, `Config.carries_loadMatrix`: the settings and the matrix of a moved config.
* `Command.run_eq_of_relocated`: commands with a moved config.
-/

namespace ReleaseMatrix

/-! ### Scripts in different surroundings -/

namespace Script

variable {ε α β γ δ : Type} {around around' : Surroundings} {r : α → β → Prop}

/-- Where the first script succeeds in its surroundings, the second succeeds in its own, with the
same output and a related value. -/
def Carries (around around' : Surroundings) (r : α → β → Prop) (s : Script ε α)
    (s' : Script ε β) : Prop :=
  ∀ output a, s.run around = (output, .ok a) → ∃ b, s'.run around' = (output, .ok b) ∧ r a b

theorem Carries.bind {q : γ → δ → Prop} {s : Script ε α} {s' : Script ε β} {f : α → Script ε γ}
    {f' : β → Script ε δ} (h : Carries around around' r s s')
    (hf : ∀ a b, r a b → Carries around around' q (f a) (f' b)) :
    Carries around around' q (s >>= f) (s' >>= f') := by
  intro output c hrun
  rw [run_bind] at hrun
  rcases hs : s.run around with ⟨before, e | a⟩
  · simp [hs] at hrun
  · obtain ⟨b, hs', hab⟩ := h before a hs
    simp only [hs, Prod.mk.injEq] at hrun
    obtain ⟨rfl, hvalue⟩ := hrun
    obtain ⟨d, hd, hcd⟩ := hf a b hab _ c (Prod.ext rfl hvalue)
    refine ⟨d, ?_, hcd⟩
    rw [run_bind, hs']
    simp only [hd]

/-- A script that fails is carried to any other. -/
theorem carries_fail (e : ε) (s' : Script ε β) : Carries around around' r (.fail e) s' := by
  intro output a hrun
  cases congrArg Prod.snd hrun

theorem carries_ofExcept {x y : Except ε α} (h : ∀ a, x = .ok a → y = .ok a) :
    Carries around around' Eq (ofExcept x) (ofExcept y) := by
  intro output a hrun
  rw [run_ofExcept, Prod.mk.injEq] at hrun
  exact ⟨a, by rw [run_ofExcept, h a hrun.2, hrun.1], rfl⟩

/-- Other errors do not matter. -/
theorem carries_ofExcept_mapError {ε' : Type} (x : Except ε' α) (f f' : ε' → ε) :
    Carries around around' Eq (ofExcept (x.mapError f)) (ofExcept (x.mapError f')) :=
  carries_ofExcept fun a h => by rwa [mapError_eq_ok_iff] at h ⊢

theorem carries_done {a : α} {b : β} (h : r a b) :
    Carries around around' r (.done a : Script ε α) (.done b) := by
  intro output c hrun
  simp only [run, Prod.mk.injEq, Except.ok.injEq] at hrun
  obtain ⟨rfl, rfl⟩ := hrun
  exact ⟨b, rfl, h⟩

theorem carries_put (text : String) :
    Carries around around' Eq (put text : Script ε Unit) (put text) := by
  intro output _ hrun
  rw [run_put] at hrun
  exact ⟨(), by rw [run_put, hrun], rfl⟩

theorem Carries.mapError {ε' : Type} {f : ε → ε'} {s : Script ε α} {s' : Script ε β}
    (h : Carries around around' r s s') :
    Carries around around' r (s.mapError f) (s'.mapError f) := by
  intro output a hrun
  rw [run_mapError, Prod.mk.injEq, mapError_eq_ok_iff] at hrun
  obtain ⟨b, hb, hab⟩ := h output a (Prod.ext hrun.1 hrun.2)
  exact ⟨b, by rw [run_mapError, hb]; rfl, hab⟩

end Script

/-- A text that is read at one path is read at another path in other surroundings. -/
def SameText (around around' : Surroundings) (path path' : String) : Prop :=
  ∀ text, around.files path = .ok text → around'.files path' = .ok text

/-- The text that is read is the same, and it is what the file has. -/
theorem Script.carries_readFile {ε : Type} {around around' : Surroundings} {path path' : String}
    (h : SameText around around' path path') (error error' : ReadError → ε) :
    Carries around around' (fun text text' => text' = text ∧ around.files path = .ok text)
      (readFile path error) (readFile path' error') := by
  intro output text hrun
  rw [run_readFile, Prod.mk.injEq, mapError_eq_ok_iff] at hrun
  obtain ⟨rfl, htext⟩ := hrun
  exact ⟨text, by rw [run_readFile, h text htext]; rfl, rfl, htext⟩

/-! ### Moved configs -/

/-- The paths that a config names. -/
def Config.paths (config : Config) : List String :=
  config.versions.declarations :: (config.versions.properties.toList ++ config.published.toList)

/-- A config file of the working directory was moved into a directory: the files that it names by
plain paths were moved with it, and those that it names by absolute paths stayed. -/
structure Relocated (directory name : String) (around around' : Surroundings) : Prop where
  /-- The path of the directory is plain. -/
  directory_isPlain : IsPlain directory
  /-- The config file is named, and lies in the working directory. -/
  name_isComponent : IsComponent name
  /-- The config file was moved. -/
  sameText : SameText around around' name (directory ++ "/" ++ name)
  /-- What the config names was moved or stayed. -/
  named : ∀ text config, around.files name = .ok text → Config.ofText? text = some config →
    ∀ path ∈ config.paths,
      IsPlain path ∧ SameText around around' path (directory ++ "/" ++ path) ∨
      FilePath.isAbsolute path ∧ SameText around around' path path

open Script

variable {directory name : String} {around around' : Surroundings}

/-- The second settings are the first, seen from the directory, and find the same texts. -/
structure Config.Carried (directory : String) (around around' : Surroundings)
    (config config' : Config) : Prop where
  /-- The paths are those behind the directory. -/
  eq_below : config' = config.below directory
  /-- A text at a path is also read behind the directory. -/
  sameText : ∀ path ∈ config.paths, SameText around around' path (FilePath.join directory path)

theorem Config.below_empty (config : Config) : config.below "" = config := by
  have hjoin : FilePath.join "" = id := funext FilePath.join_empty
  simp [below, VersionSources.below, hjoin]

theorem Config.result_load {path text : String} {config : Config}
    (htext : around.files path = .ok text) (hconfig : ofText? text = some config) :
    (load path).result around = .ok (config.below (FilePath.parent path)) := by
  refine result_bind_eq_ok_iff.2 ⟨text, ?_, ?_⟩
  · rw [result_readFile, htext]
    rfl
  · simp only [hconfig]
    rfl

namespace Relocated

/-- In the working directory the paths of the config count as they are, and in the directory they
are put behind it. -/
theorem carried (h : Relocated directory name around around') {text : String} {config : Config}
    (htext : around.files name = .ok text) (hconfig : Config.ofText? text = some config) :
    Config.Carried directory around around' (config.below (FilePath.parent name))
      (config.below (FilePath.parent (directory ++ "/" ++ name))) := by
  rw [FilePath.parent_of_isComponent h.name_isComponent, Config.below_empty,
    FilePath.parent_below h.directory_isPlain h.name_isComponent]
  refine ⟨rfl, fun path hpath => ?_⟩
  rcases h.named text config htext hconfig path hpath with ⟨hplain, hmoved⟩ | ⟨habsolute, hstays⟩
  · rwa [FilePath.join_of_isPlain h.directory_isPlain hplain]
  · rwa [FilePath.join_of_isAbsolute habsolute]

theorem carries_load (h : Relocated directory name around around') :
    Carries around around' (Config.Carried directory around around') (Config.load name)
      (Config.load (directory ++ "/" ++ name)) := by
  refine (carries_readFile h.sameText _ _).bind ?_
  rintro _ text ⟨rfl, htext⟩
  cases hconfig : Config.ofText? text with
  | none => exact carries_fail _ _
  | some config => exact carries_done (h.carried htext hconfig)

end Relocated

/-- The value of a key is the same, since the file has the same text. -/
theorem Properties.carries_read {path path' : String} (h : SameText around around' path path')
    (key : String) : Carries around around' Eq (read path key) (read path' key) := by
  refine (carries_readFile h _ _).bind ?_
  rintro _ text ⟨rfl, -⟩
  exact carries_done rfl

theorem VersionSources.carries_currentFromProperties {sources sources' : VersionSources}
    (hkey : sources'.propertiesKey = sources.propertiesKey) {path path' : String}
    (h : SameText around around' path path') :
    Carries around around' Eq (sources.currentFromProperties path)
      (sources'.currentFromProperties path') := by
  rw [currentFromProperties, currentFromProperties, hkey]
  refine (Properties.carries_read h _).bind ?_
  rintro value? _ rfl
  cases value? with
  | none => exact carries_fail _ _
  | some value => exact carries_ofExcept_mapError _ _ _

namespace Config.Carried

variable {config config' : Config} (h : Carried directory around around' config config')

include h

theorem carries_resolveCurrent (variableValue : Option String) :
    Carries around around' Eq (config.versions.resolveCurrent variableValue)
      (config'.versions.resolveCurrent variableValue) := by
  obtain ⟨rfl, htexts⟩ := h
  unfold VersionSources.resolveCurrent
  simp only [below, VersionSources.below]
  cases variableValue with
  | some value => exact carries_ofExcept_mapError _ _ _
  | none =>
    cases config.versions.current with
    | some current => exact carries_done rfl
    | none =>
      cases hproperties : config.versions.properties with
      | none => exact carries_fail _ _
      | some path =>
        exact VersionSources.carries_currentFromProperties rfl
          (htexts path (by simp [paths, hproperties]))

theorem carries_loadMatrix (variableValue : Option String) :
    Carries around around' Eq (config.loadMatrix variableValue)
      (config'.loadMatrix variableValue) := by
  refine (h.carries_resolveCurrent variableValue).bind ?_
  rintro current _ rfl
  obtain ⟨rfl, htexts⟩ := h
  refine (carries_readFile (htexts _ List.mem_cons_self) _ _).bind ?_
  rintro _ source ⟨rfl, -⟩
  exact carries_ofExcept_mapError _ _ _

/-- The file with the published versions is the one that the config names, and so has the same
text. -/
theorem carries_choosePublished :
    Carries around around' (SameText around around')
      (ofExcept (Command.choosePublished none config))
      (ofExcept (Command.choosePublished none config')) := by
  obtain ⟨rfl, htexts⟩ := h
  unfold Command.choosePublished
  simp only [below, Option.none_or]
  cases hpublished : config.published with
  | none => exact carries_fail _ _
  | some path => exact carries_done (htexts path (by simp [paths, hpublished]))

end Config.Carried

theorem Matrix.carries_check (m : Matrix) {path path' : String}
    (h : SameText around around' path path') :
    Carries around around' Eq (m.check path) (m.check path') := by
  refine Carries.bind (r := Eq) ?_ ?_
  · refine ((carries_readFile h _ _).bind ?_).mapError
    rintro _ text ⟨rfl, -⟩
    exact carries_ofExcept fun _ h => h
  · rintro published _ rfl
    exact carries_ofExcept fun _ h => h

/-! ### Commands -/

namespace Command

/-- The commands that read no file but the config and those that it names, by the path of the
config: only the check can be given another file. -/
inductive ReadsConfig : (String → Command) → Prop where
  /-- The matrix, in either form. -/
  | matrix (format : OutputFormat) : ReadsConfig fun config => .matrix config format
  /-- The look-up of any version. -/
  | info (v : Version) : ReadsConfig fun config => .info config v
  /-- The list of previous unreleased versions, of one project or of all. -/
  | previousUnreleased (project : Option String) :
      ReadsConfig fun config => .previousUnreleased config project
  /-- The check with the file that the config names. -/
  | check : ReadsConfig fun config => .check config none

theorem ReadsConfig.carries_script {command : String → Command} (hcommand : ReadsConfig command)
    (h : Relocated directory name around around') (variableValue : Option String) :
    Carries around around' Eq ((command name).script variableValue)
      ((command (directory ++ "/" ++ name)).script variableValue) := by
  cases hcommand with
  | matrix format =>
    refine h.carries_load.bind fun settings settings' hsettings => ?_
    refine (hsettings.carries_loadMatrix variableValue).bind ?_
    rintro m _ rfl
    exact carries_put _
  | info v =>
    refine h.carries_load.bind fun settings settings' hsettings => ?_
    refine (hsettings.carries_loadMatrix variableValue).bind ?_
    rintro m _ rfl
    refine (carries_ofExcept fun _ h => h).bind ?_
    rintro text _ rfl
    exact carries_put text
  | previousUnreleased project =>
    refine (carries_ofExcept fun _ h => h).bind ?_
    rintro project _ rfl
    refine h.carries_load.bind fun settings settings' hsettings => ?_
    refine (hsettings.carries_loadMatrix variableValue).bind ?_
    rintro m _ rfl
    exact carries_put _
  | check =>
    refine h.carries_load.bind fun settings settings' hsettings => ?_
    -- the two checks read the published versions at different paths
    refine hsettings.carries_choosePublished.bind fun path path' hpath => ?_
    refine (hsettings.carries_loadMatrix variableValue).bind ?_
    rintro m _ rfl
    refine (m.carries_check hpath).mapError.bind ?_
    rintro _ _ rfl
    exact carries_put _

/-- **A config can be moved with the files that it names.** If the config file of the working
directory is moved into a directory, those files that it names by plain paths with it, and if those
that it names by absolute paths stay, then every command that reads no other file and succeeded
succeeds again, with the same output, whatever the environment variable holds. A tree of files may
be moved as a whole, as far as the system lets the longer paths be followed. Wherever a config lies,
the absolute paths in it count as they are. -/
theorem run_eq_of_relocated :
    (∀ directory name around around', Relocated directory name around around' →
      ∀ command, ReadsConfig command → ∀ variableValue output,
        ((command name).script variableValue).run around = (output, .ok ()) →
        ((command (directory ++ "/" ++ name)).script variableValue).run around' =
          (output, .ok ())) ∧
    (∀ (tree : FileTree) directory name environment, tree.HasRoot → IsPlain directory →
      IsComponent name → FileTree.Allows directory name →
      (∀ text config, tree.files name = .ok text → Config.ofText? text = some config →
        ∀ path ∈ config.paths, IsPlain path ∧ FileTree.Allows directory path) →
      Relocated directory name ⟨tree.files, environment⟩
        ⟨(tree.below directory).files, environment⟩) ∧
    ∀ path (around : Surroundings) text config, around.files path = .ok text →
      Config.ofText? text = some config →
      ∃ settings, (Config.load path).result around = .ok settings ∧
        (FilePath.isAbsolute config.versions.declarations →
          settings.versions.declarations = config.versions.declarations) ∧
        (∀ properties ∈ config.versions.properties, FilePath.isAbsolute properties →
          settings.versions.properties = some properties) ∧
        ∀ published ∈ config.published, FilePath.isAbsolute published →
          settings.published = some published := by
  refine ⟨?_, ?_, ?_⟩
  · intro directory name around around' h command hcommand variableValue output hrun
    obtain ⟨_, hmoved, rfl⟩ := hcommand.carries_script h variableValue output () hrun
    exact hmoved
  · intro tree directory name environment hroot hdirectory hname hallows hnamed
    exact {
      directory_isPlain := hdirectory
      name_isComponent := hname
      sameText := fun text => FileTree.files_below hroot hdirectory hname.isPlain hallows
      named := fun text config htext hconfig path hpath => by
        obtain ⟨hplain, hpathAllows⟩ := hnamed text config htext hconfig path hpath
        exact .inl ⟨hplain, fun text => FileTree.files_below hroot hdirectory hplain hpathAllows⟩ }
  · intro path around text config htext hconfig
    refine ⟨_, Config.result_load htext hconfig, ?_, ?_, ?_⟩
    · exact fun habsolute => FilePath.join_of_isAbsolute habsolute _
    · intro properties hproperties habsolute
      rw [Config.below, VersionSources.below, Option.mem_def.1 hproperties, Option.map_some,
        FilePath.join_of_isAbsolute habsolute]
    · intro published hpublished habsolute
      rw [Config.below, Option.mem_def.1 hpublished, Option.map_some,
        FilePath.join_of_isAbsolute habsolute]

/-- The files of a first release that is not published yet. -/
def firstReleaseTree : FileTree where
  entries := [
    (["bwc.yaml"], .file (
      "versions:\n  declarations: src/Version.java\n  properties: build.env\n" ++
      "authoritative:\n  released: published.txt\n").toUTF8),
    (["src", "Version.java"],
      .file "  public static final Version V_1_0_0 = new Version(1000099);\n".toUTF8),
    (["build.env"], .file "opensearch = 1.0.0\n".toUTF8),
    (["published.txt"], .file "# none yet\n".toUTF8)]

/-- The check succeeds in the working directory, and so it does in a directory that all four files
were moved to. An absolute path in a config of another directory counts as it is. -/
theorem run_eq_of_relocated_firstReleaseTree :
    ((check "bwc.yaml" none).script none).run ⟨firstReleaseTree.files, fun _ => none⟩ =
      ("released versions are consistent\n", .ok ()) ∧
    ((check "tools/bwc/bwc.yaml" none).script none).run
        ⟨(firstReleaseTree.below "tools/bwc").files, fun _ => none⟩ =
      ("released versions are consistent\n", .ok ()) ∧
    ∃ settings, (Config.load "tools/bwc.yaml").result
        ⟨fun _ => .ok "versions:\n  declarations: /src/Version.java\n", fun _ => none⟩ =
          .ok settings ∧ settings.versions.declarations = "/src/Version.java" := by
  have hrun : ((check "bwc.yaml" none).script none).run
      ⟨firstReleaseTree.files, fun _ => none⟩ = ("released versions are consistent\n", .ok ()) := by
    decide +kernel
  have hpaths : ((firstReleaseTree.files "bwc.yaml").toOption.bind Config.ofText?).map
      Config.paths = some ["src/Version.java", "build.env", "published.txt"] := by decide +kernel
  have habsolute : (Config.ofText? "versions:\n  declarations: /src/Version.java\n").map
      (·.versions.declarations) = some "/src/Version.java" := by decide +kernel
  have hroot : firstReleaseTree.HasRoot := by
    intro bytes
    simp [firstReleaseTree, List.lookup_cons]
  obtain ⟨hcommands, htrees, hloads⟩ := run_eq_of_relocated
  refine ⟨hrun, ?_, ?_⟩
  · refine hcommands _ _ _ _ (htrees firstReleaseTree "tools/bwc" "bwc.yaml" _ hroot (by decide)
      (by decide) ⟨by decide, by decide, by decide⟩ ?_) _ .check none _ hrun
    intro text config htext hconfig path hpath
    simp only [htext, Except.toOption, Option.bind_some, hconfig, Option.map_some,
      Option.some.injEq] at hpaths
    simp only [hpaths, List.mem_cons, List.not_mem_nil, or_false] at hpath
    rcases hpath with rfl | rfl | rfl <;> exact ⟨by decide, by decide, by decide, by decide⟩
  · obtain ⟨config, hconfig, hdeclarations⟩ := Option.map_eq_some_iff.1 habsolute
    obtain ⟨settings, hsettings, hkept, -⟩ :=
      hloads "tools/bwc.yaml" ⟨fun _ => .ok _, fun _ => none⟩ _ config rfl hconfig
    rw [hdeclarations] at hkept
    exact ⟨settings, hsettings, hkept (by decide)⟩

end Command

end ReleaseMatrix
