import ReleaseMatrix.Proofs.Agreement

/-!
# Where the current version comes from

The current version comes from the first of three sources that is there: the environment variable,
the config itself, and a key of a properties file. Nothing that stands behind that source has an
effect, whether it holds another version, something that is no version, or cannot be read. In turn,
there is no way back from the first source: if it holds no version, that is the failure, even if a
source behind it holds one.

Two builds have the same first source if it is the same one of the three and says the same in both
(`VersionSources.SameSource`). They then agree on the current version, and if they have the same
declarations and the same policy, too, on the matrix.

The matrix is not simply given the current version. It is made only if that is the newest of the
declared versions, so a wrong current version is found out by the declarations.

## What is proved

* `SameSource.run_resolveCurrent_eq`, `SameInputs.run_loadMatrix_eq`: builds with the same first
  source have the same current version, and the same matrix.
* `Config.current_of_first_source`: which version that is for each source, and that it is the current
  version of the matrix and the newest declared one.
-/

namespace ReleaseMatrix

open Script

/-! ### The current version -/

namespace VersionSources

variable {sources sources' : VersionSources} {around around' : Surroundings} {path : String}
  {v : Version} {variableValue : Option String}

/-- A variable that is set decides, and what it holds has to be a version. -/
theorem run_resolveCurrent_variable (sources : VersionSources) (around : Surroundings)
    (value : String) : (sources.resolveCurrent (some value)).run around =
      ("", (Version.ofText value).mapError (.variableMalformed value)) := by
  rw [resolveCurrent, run_ofExcept]

theorem run_resolveCurrent_current (h : sources.current = some v) :
    (sources.resolveCurrent none).run around = ("", .ok v) := by
  simp only [resolveCurrent, h, run]

theorem resolveCurrent_properties (hcurrent : sources.current = none)
    (hpath : sources.properties = some path) :
    sources.resolveCurrent none = sources.currentFromProperties path := by
  simp only [resolveCurrent, hcurrent, hpath]

theorem resolveCurrent_nowhere (hcurrent : sources.current = none)
    (hproperties : sources.properties = none) :
    sources.resolveCurrent none = .fail .noCurrentVersion := by
  simp only [resolveCurrent, hcurrent, hproperties]

/-- Of the properties file, only what it says of the key matters. -/
theorem run_currentFromProperties_congr (hkey : sources.propertiesKey = sources'.propertiesKey)
    (hread : (Properties.read path sources.propertiesKey).run around =
      (Properties.read path sources.propertiesKey).run around') :
    (sources.currentFromProperties path).run around =
      (sources'.currentFromProperties path).run around' := by
  rw [currentFromProperties, currentFromProperties, run_bind, run_bind, ← hkey, hread]
  rcases (Properties.read path sources.propertiesKey).run around' with ⟨output, _ | word⟩
  · rfl
  · cases word with
    | none => rfl
    | some value => simp only [run_ofExcept]

/-- Two builds have the same first source of the current version, and it says the same in both. -/
inductive SameSource (sources sources' : VersionSources) (around around' : Surroundings) :
    Option String → Prop where
  /-- The environment variable is set. -/
  | environment (value : String) : SameSource sources sources' around around' (some value)
  /-- The variable is not set, and both configs hold the version. -/
  | current {v : Version} (h : sources.current = some v) (h' : sources'.current = some v) :
      SameSource sources sources' around around' none
  /-- Neither variable nor config hold a version, and the properties file of this path says the same
  of this key. -/
  | properties {path : String} (hcurrent : sources.current = none)
      (hcurrent' : sources'.current = none) (hpath : sources.properties = some path)
      (hpath' : sources'.properties = some path)
      (hkey : sources.propertiesKey = sources'.propertiesKey)
      (hread : (Properties.read path sources.propertiesKey).run around =
        (Properties.read path sources.propertiesKey).run around') :
      SameSource sources sources' around around' none
  /-- There is no source at all. -/
  | nowhere (hcurrent : sources.current = none) (hcurrent' : sources'.current = none)
      (hproperties : sources.properties = none) (hproperties' : sources'.properties = none) :
      SameSource sources sources' around around' none

/-- Only the first source matters. -/
theorem SameSource.run_resolveCurrent_eq
    (h : SameSource sources sources' around around' variableValue) :
    (sources.resolveCurrent variableValue).run around =
      (sources'.resolveCurrent variableValue).run around' := by
  cases h with
  | environment value =>
    rw [run_resolveCurrent_variable, run_resolveCurrent_variable]
  | current h h' =>
    rw [run_resolveCurrent_current h, run_resolveCurrent_current h']
  | properties hcurrent hcurrent' hpath hpath' hkey hread =>
    rw [resolveCurrent_properties hcurrent hpath, resolveCurrent_properties hcurrent' hpath']
    exact run_currentFromProperties_congr hkey hread
  | nowhere hcurrent hcurrent' hproperties hproperties' =>
    rw [resolveCurrent_nowhere hcurrent hproperties, resolveCurrent_nowhere hcurrent' hproperties']
    rfl

end VersionSources

/-! ### The matrix -/

namespace Config

open VersionSources

variable {config config' : Config} {around around' : Surroundings} {variableValue : Option String}
  {m : Matrix}

/-- Two builds that have what a matrix is made of in common: the first source of the current version,
the declarations and the policy. -/
structure SameInputs (variableValue : Option String) (config config' : Config)
    (around around' : Surroundings) : Prop where
  /-- The first source of the current version is the same. -/
  source : SameSource config.versions config'.versions around around' variableValue
  /-- The versions are declared in files of the same path. -/
  declarations : config.versions.declarations = config'.versions.declarations
  /-- These files are the same. -/
  declared : around.files config.versions.declarations = around'.files config.versions.declarations
  /-- The policy is the same. -/
  policy : config.policy = config'.policy

/-- Nothing else has an effect on the matrix. -/
theorem SameInputs.run_loadMatrix_eq (h : SameInputs variableValue config config' around around') :
    (config.loadMatrix variableValue).run around =
      (config'.loadMatrix variableValue).run around' := by
  rw [loadMatrix, loadMatrix, run_bind, run_bind, h.source.run_resolveCurrent_eq]
  simp only [run_bind, run_readFile, run_ofExcept, ← h.declarations, ← h.policy, h.declared]

/-- The matrix is made for the version that was resolved, which is the newest declared one. -/
theorem current_of_loadMatrix (h : (config.loadMatrix variableValue).result around = .ok m) :
    (config.versions.resolveCurrent variableValue).result around = .ok m.current ∧
      ∃ source, around.files config.versions.declarations = .ok source ∧
        IsLatest config.policy.Precedes (Declaration.ofSource source).toList m.current := by
  obtain ⟨current, source, hcurrent, hsource, hm⟩ := result_loadMatrix_eq_ok_iff.1 h
  have hbuilt := Matrix.build_eq_ok_iff.1 hm
  rw [hbuilt.current_eq]
  exact ⟨hcurrent, source, hsource, hbuilt.newest⟩

/-- **Only the first source of the current version matters**, in any two builds with any files. If
the environment variable is set, it decides: its version is the current one, and if it holds none,
that is the failure in both. If it is not set and both configs hold the same version, it is that.
Builds with the same first source, declarations and policy get the same matrix; and the current
version of a matrix that is made is the one that was resolved, and the newest declared one. -/
theorem current_of_first_source (config config' : Config) (around around' : Surroundings) :
    (∀ value, ∃ result,
      (config.versions.resolveCurrent (some value)).run around = ("", result) ∧
      (config'.versions.resolveCurrent (some value)).run around' = ("", result) ∧
      (∀ v, result = .ok v ↔ Version.ofText value = .ok v) ∧
      ∀ failure, result = .error failure ↔ ∃ reason,
        Version.ofText value = .error reason ∧ failure = .variableMalformed value reason) ∧
    (∀ v, config.versions.current = some v → config'.versions.current = some v →
      (config.versions.resolveCurrent none).run around = ("", .ok v) ∧
      (config'.versions.resolveCurrent none).run around' = ("", .ok v)) ∧
    (∀ variableValue, SameInputs variableValue config config' around around' →
      (config.loadMatrix variableValue).run around =
        (config'.loadMatrix variableValue).run around') ∧
    ∀ variableValue m, (config.loadMatrix variableValue).result around = .ok m →
      (config.versions.resolveCurrent variableValue).result around = .ok m.current ∧
        ∃ source, around.files config.versions.declarations = .ok source ∧
          IsLatest config.policy.Precedes (Declaration.ofSource source).toList m.current := by
  refine ⟨fun value => ?_, fun v h h' => ?_, fun _ h => h.run_loadMatrix_eq,
    fun _ _ h => current_of_loadMatrix h⟩
  · refine ⟨_, run_resolveCurrent_variable _ around value,
      run_resolveCurrent_variable _ around' value, fun v => mapError_eq_ok_iff, fun failure => ?_⟩
    cases Version.ofText value with
    | error reason => simp [Except.mapError, eq_comm]
    | ok v => simp [Except.mapError]
  · exact ⟨run_resolveCurrent_current h, run_resolveCurrent_current h'⟩

/-- The current version is fixed in the config, and no other source is named. -/
def fixedVersion : Config where
  versions :=
    { declarations := "Version.java"
      current := some (.of 1 0 0)
      properties := none
      propertiesKey := "opensearch" }
  published := none
  policy := .standard

/-- The same, with a properties file behind the config. -/
def fixedOverProperties : Config :=
  { fixedVersion with
    versions := { fixedVersion.versions with properties := some "gradle.properties" } }

/-- The files of the first release, and a properties file that holds no version. -/
def withoutVersion : Surroundings where
  files path :=
    if path = "gradle.properties" then .ok "opensearch = latest\n"
    else Command.firstRelease.files path
  environment _ := none

/-- A config behind the variable does no good, and a properties file behind the config no harm. -/
theorem current_of_first_source_fixedVersion :
    (fixedVersion.versions.resolveCurrent (some "latest")).run Command.firstRelease =
      ("", .error (.variableMalformed "latest" (.format "latest"))) ∧
    (fixedOverProperties.versions.resolveCurrent none).run withoutVersion =
      ("", .ok (.of 1 0 0)) ∧
    (fixedVersion.loadMatrix none).run Command.firstRelease =
      (fixedOverProperties.loadMatrix none).run withoutVersion ∧
    ∃ m, (fixedVersion.loadMatrix none).result Command.firstRelease = .ok m ∧
      m.current = .of 1 0 0 := by
  obtain ⟨hvariable, hcurrent, hmatrix, hresolved⟩ :=
    current_of_first_source fixedVersion fixedOverProperties Command.firstRelease withoutVersion
  have hlatest : Version.ofText "latest" = .error (.format "latest") := by decide +kernel
  have hsame : SameInputs none fixedVersion fixedOverProperties Command.firstRelease
      withoutVersion :=
    ⟨.current rfl rfl, rfl, by decide, rfl⟩
  have hmade : ((fixedVersion.loadMatrix none).result Command.firstRelease).toOption.isSome := by
    decide +kernel
  obtain ⟨outcome, hrun, -, -, hfailure⟩ := hvariable "latest"
  obtain ⟨hfixed, hfixed'⟩ := hcurrent (.of 1 0 0) rfl rfl
  refine ⟨?_, hfixed', hmatrix none hsame, ?_⟩
  · rw [hrun, (hfailure _).2 ⟨_, hlatest, rfl⟩]
  · cases hm : (fixedVersion.loadMatrix none).result Command.firstRelease with
    | error failure =>
      rw [hm] at hmade
      cases hmade
    | ok m =>
      have hm_current := (hresolved none m hm).1
      rw [result, hfixed] at hm_current
      exact ⟨m, rfl, (Except.ok.inj hm_current).symm⟩

end Config

end ReleaseMatrix
