import ReleaseMatrix.Check

/-!
# Failures

The reasons why a command fails, each with its message and, where an error of a part of the work
lies behind it, the wording of that cause. A report shows the message and, indented, the cause.
-/

namespace ReleaseMatrix

open Text

/-- The environment variable that may set the current version. -/
def currentVersionVariable : String := "BWC_CURRENT_VERSION"

/-- Why a command fails. -/
inductive Failure where
  /-- The config file cannot be read. -/
  | configUnreadable (path : String) (reason : ReadError)
  /-- The config file is no config. Where and why it is none is not kept. -/
  | configMalformed
  /-- The environment variable holds no version. -/
  | variableMalformed (value : String) (reason : VersionError)
  /-- The properties file cannot be read. -/
  | propertiesUnreadable (path : String) (reason : ReadError)
  /-- The properties file has no entry for the key. -/
  | propertyMissing (key path : String)
  /-- The property holds no version. -/
  | propertyMalformed (value path : String) (reason : VersionError)
  /-- Nothing says which version is the current one. -/
  | noCurrentVersion
  /-- The file with the declarations cannot be read. -/
  | declarationsUnreadable (path : String) (reason : ReadError)
  /-- The declared versions make no matrix. -/
  | declarationsInvalid (path : String) (reason : MatrixError)
  /-- The version is not on a retained line. -/
  | notRetained (version current : Version)
  /-- The versions asked for belong to no project. -/
  | unknownProject (reason : MatrixError)
  /-- No file is named that lists the published versions. -/
  | noPublishedFile
  /-- The matrix does not pass its check. -/
  | check (reason : CheckError)
deriving DecidableEq

namespace Failure

/-- The wording of the failure; that of a malformed config ends where the reason would follow. -/
def message : Failure → String
  | .configUnreadable path reason =>
    "Failed to read config file " ++ quoted path ++ ": " ++ reason.message
  | .configMalformed => "Failed to parse config YAML"
  | .variableMalformed value _ =>
    currentVersionVariable ++ " must be a version, got '" ++ value ++ "'"
  | .propertiesUnreadable path _ => "Failed to read properties file " ++ path
  | .propertyMissing key path => "property '" ++ key ++ "' not found in " ++ path
  | .propertyMalformed value path _ => "invalid version '" ++ value ++ "' in " ++ path
  | .noCurrentVersion =>
    "no current version: set " ++ currentVersionVariable ++
      ", versions.current or versions.properties"
  | .declarationsUnreadable path _ => "Failed to read declarations " ++ path
  | .declarationsInvalid path _ => "Invalid version declarations in " ++ path
  | .notRetained version current =>
    version.text ++ " is not a retained version of " ++ current.text
  | .unknownProject reason => reason.message
  | .noPublishedFile =>
    "no published versions file: pass --released or set authoritative.released"
  | .check reason => reason.message

/-- The wording of the cause of the failure, if another error lies behind it. -/
def cause? : Failure → Option String
  | .variableMalformed _ reason => some reason.message
  | .propertiesUnreadable _ reason => some reason.message
  | .propertyMalformed _ _ reason => some reason.message
  | .declarationsUnreadable _ reason => some reason.message
  | .declarationsInvalid _ reason => some reason.message
  | .check reason => reason.cause?
  | .configUnreadable _ _ | .configMalformed | .propertyMissing _ _ | .noCurrentVersion
  | .notRetained _ _ | .unknownProject _ | .noPublishedFile => none

/-- The message and its cause. -/
def chain (f : Failure) : List String := f.message :: f.cause?.toList

/-- The text with every line four spaces further in. -/
def indented (text : String) : String :=
  String.ofList ([' ', ' ', ' ', ' '] ++
    text.toList.flatMap fun c => if c = '\n' then ['\n', ' ', ' ', ' ', ' '] else [c])

/-- The text that shows the failure. -/
def report (f : Failure) : String :=
  "Error: " ++ f.message ++
    (match f.cause? with
      | some cause => "\n\nCaused by:\n" ++ indented cause
      | none => "") ++ "\n"

end Failure

end ReleaseMatrix
