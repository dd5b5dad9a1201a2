import ReleaseMatrix.Config
import ReleaseMatrix.Report

/-!
# Commands

What the program does with a config: it shows the matrix, looks up a version, lists the unreleased
versions other than the current one, or checks the matrix. Every command reads the config and makes
the matrix before it writes anything, and what it writes is the last that it does.
-/

namespace ReleaseMatrix

/-- The form in which a matrix is shown. -/
inductive OutputFormat where
  /-- Lines for people. -/
  | text
  /-- JSON for tools. -/
  | json
deriving DecidableEq

/-- What the program is to do with a config file. -/
inductive Command where
  /-- Shows the matrix. -/
  | matrix (config : String) (format : OutputFormat)
  /-- Shows where a version is built from, or that it is released. -/
  | info (config : String) (version : Version)
  /-- Lists the unreleased versions other than the current one, of one project or of all. -/
  | previousUnreleased (config : String) (project : Option String)
  /-- Checks the matrix with a file of published versions or with the one that the config names. -/
  | check (config : String) (published : Option String)
deriving DecidableEq

/-- The text that shows a matrix in a form. -/
def Report.render (r : Report) : OutputFormat → String
  | .text => r.text
  | .json => r.json.pretty ++ "\n"

/-- What there is to say about a version in a matrix. -/
def Matrix.describe (m : Matrix) (v : Version) : Except Failure String :=
  match m.info? v with
  | some u => .ok (u.line ++ "\n")
  | none =>
    if m.retained v then .ok (v.text ++ " is released\n") else .error (.notRetained v m.current)

/-- The lines of the unreleased versions other than the current one, of one project or of all. -/
def Matrix.listPrevious (m : Matrix) (project : Option Project) : String :=
  let chosen := m.previousUnreleased.filter fun u => project.all (u.project = ·)
  String.join (chosen.map fun u => u.line ++ "\n")

namespace Command

/-- The project with a path, if a path is given. -/
def chooseProject : Option String → Except Failure (Option Project)
  | none => .ok none
  | some path => match Project.ofPath path with
    | .ok project => .ok (some project)
    | .error e => .error (.unknownProject e)

/-- The file of published versions: the one that is given, or else the one that the config names. -/
def choosePublished (given : Option String) (config : Config) : Except Failure String :=
  match given.or config.published with
  | some path => .ok path
  | none => .error .noPublishedFile

/-- Carries out a command, with the value of the environment variable for the current version. -/
def script (variableValue : Option String) : Command → Script Failure Unit
  | .matrix config format => do
    let m ← (← Config.load config).loadMatrix variableValue
    Script.put (m.report.render format)
  | .info config version => do
    let m ← (← Config.load config).loadMatrix variableValue
    Script.put (← Script.ofExcept (m.describe version))
  | .previousUnreleased config path => do
    let project ← Script.ofExcept (chooseProject path)
    let m ← (← Config.load config).loadMatrix variableValue
    Script.put (m.listPrevious project)
  | .check config given => do
    let config ← Config.load config
    let path ← Script.ofExcept (choosePublished given config)
    let m ← config.loadMatrix variableValue
    (m.check path).mapError .check
    Script.put "released versions are consistent\n"

end Command

end ReleaseMatrix
