import ReleaseMatrix.Failure
import ReleaseMatrix.FilePath
import ReleaseMatrix.Policy.Document
import ReleaseMatrix.Properties
import ReleaseMatrix.Yaml.Reader

/-!
# Configs

A config says where the versions of a build are declared, which of them is the current one, where
the published versions are listed, and what the policy is. The current version comes from the first
of three sources that is there: the environment variable, the config itself, and a key of a
properties file. Relative paths in a config file are seen from the directory of that file.
-/

namespace ReleaseMatrix

/-- Where the versions of a build are declared and which of them is the current one. -/
structure VersionSources where
  /-- The file that declares the versions. -/
  declarations : String
  /-- The current version. -/
  current : Option Version
  /-- The properties file that holds the current version. -/
  properties : Option String
  /-- The key of the current version in the properties file. -/
  propertiesKey : String
deriving DecidableEq

/-- The settings of a build. -/
structure Config where
  /-- Where the versions are declared and which of them is the current one. -/
  versions : VersionSources
  /-- The file that lists the published versions. -/
  published : Option String
  /-- The policy. -/
  policy : Policy
deriving DecidableEq

/-- Reads the value of a key from a properties file. -/
def Properties.read (path key : String) : Script Failure (Option String) := do
  return value? (← Script.readFile path (.propertiesUnreadable path)) key

namespace VersionSources

/-- The sources that a document describes; only the file with the declarations has to be given. -/
def ofDocument (d : Document) : Option VersionSources := do
  let fields ← d.fields? ["declarations", "current", "properties", "properties_key"]
  return {
    declarations := ← requiredField fields "declarations" Document.text?
    current := ← fieldOr fields "current" (Document.optional? Document.version?) none
    properties := ← fieldOr fields "properties" (Document.optional? Document.text?) none
    propertiesKey := ← fieldOr fields "properties_key" Document.text? "opensearch" }

/-- The sources as they are seen from a directory. -/
def below (sources : VersionSources) (directory : String) : VersionSources :=
  { sources with
    declarations := FilePath.join directory sources.declarations
    properties := sources.properties.map (FilePath.join directory) }

/-- The current version that the properties file holds. -/
def currentFromProperties (sources : VersionSources) (path : String) : Script Failure Version := do
  match ← Properties.read path sources.propertiesKey with
  | none => .fail (.propertyMissing sources.propertiesKey path)
  | some value =>
    Script.ofExcept ((Version.ofText value).mapError (.propertyMalformed value path))

/-- The current version of a build, with the value of the environment variable. -/
def resolveCurrent (sources : VersionSources) (variableValue : Option String) :
    Script Failure Version :=
  match variableValue, sources.current, sources.properties with
  | some value, _, _ =>
    Script.ofExcept ((Version.ofText value).mapError (.variableMalformed value))
  | none, some version, _ => .done version
  | none, none, some path => sources.currentFromProperties path
  | none, none, none => .fail .noCurrentVersion

end VersionSources

namespace Config

/-- The file with the published versions that a document names, if it names one. -/
def publishedOfDocument (d : Document) : Option (Option String) := do
  let fields ← d.fields? ["released"]
  fieldOr fields "released" (Document.optional? Document.text?) none

/-- The config that a document describes; only the version sources have to be given. -/
def ofDocument (d : Document) : Option Config := do
  let fields ← d.fields? ["versions", "authoritative", "policy"]
  return {
    versions := ← requiredField fields "versions" VersionSources.ofDocument
    published := ← fieldOr fields "authoritative" publishedOfDocument none
    policy := ← fieldOr fields "policy" Policy.ofDocument Policy.standard }

/-- The config as it is seen from a directory. -/
def below (config : Config) (directory : String) : Config :=
  { config with
    versions := config.versions.below directory
    published := config.published.map (FilePath.join directory) }

/-- The config that a text writes. -/
def ofText? (text : String) : Option Config := (Yaml.read? text).bind ofDocument

/-- Reads a config file. -/
def load (path : String) : Script Failure Config := do
  let text ← Script.readFile path (.configUnreadable path)
  match ofText? text with
  | some config => return config.below (FilePath.parent path)
  | none => .fail .configMalformed

/-- Makes the matrix that a config describes, with the value of the environment variable. -/
def loadMatrix (config : Config) (variableValue : Option String) : Script Failure Matrix := do
  let current ← config.versions.resolveCurrent variableValue
  let path := config.versions.declarations
  let source ← Script.readFile path (.declarationsUnreadable path)
  Script.ofExcept
    ((Matrix.ofSource source current config.policy).mapError (.declarationsInvalid path))

end Config

end ReleaseMatrix
