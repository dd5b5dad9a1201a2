import ReleaseMatrix.CommandLine

/-!
# Help

The texts that tell how the program and its commands are used: what something does, how its command
line is made up, and one line for each of its parts, with the explanations in one column.
-/

namespace ReleaseMatrix

/-- The parts of one kind that a command line may have, each with its explanation. -/
structure HelpSection where
  /-- The name of the kind. -/
  title : String
  /-- The parts and their explanations. -/
  entries : List (String × String)

namespace HelpSection

/-- The width of the longest part. -/
def width (s : HelpSection) : Nat := (s.entries.map (·.1.length)).foldr max 0

/-- The lines of the section; every explanation begins two columns behind the longest part. -/
def lines (s : HelpSection) : List String :=
  (s.title ++ ":") :: s.entries.map fun (part, explanation) =>
    "  " ++ part ++ "".pushn ' ' (s.width + 2 - part.length) ++ explanation

end HelpSection

/-- What is shown on how something is used. -/
structure HelpPage where
  /-- What it does. -/
  purpose : String
  /-- The form of its command line. -/
  usage : String
  /-- The parts of its command line. -/
  sections : List HelpSection

/-- The text of the page. -/
def HelpPage.text (page : HelpPage) : String :=
  let lines := page.purpose :: "" :: ("Usage: " ++ page.usage) ::
    page.sections.flatMap fun s => "" :: s.lines
  String.join (lines.map (· ++ "\n"))

namespace CommandName

/-- The word that names the command. -/
def word : CommandName → String
  | .matrix => "matrix"
  | .info => "info"
  | .previousUnreleased => "previous-unreleased"
  | .check => "check"

/-- What the command does. -/
def purpose : CommandName → String
  | .matrix => "Print the full compatibility matrix"
  | .info => "Print the branch and build project of one version"
  | .previousUnreleased => "List unreleased versions other than the current one"
  | .check => "Verify released bookkeeping against the published versions"

/-- The form of the words behind the name of the command. -/
def usage : CommandName → String
  | .info => "--config <CONFIG> <VERSION>"
  | _ => "[OPTIONS] --config <CONFIG>"

/-- The operands of the command. -/
def operandHelp : CommandName → List (String × String)
  | .info => [("<VERSION>", "Version to look up, e.g. 7.10.2")]
  | _ => []

/-- The options of the command besides the one for the config file. -/
def optionHelp : CommandName → List (String × String)
  | .matrix => [("--format <FORMAT>", "[default: text] [possible values: text, json]")]
  | .info => []
  | .previousUnreleased => [("--project <PROJECT>",
      "Only versions built by this project path, e.g. :distribution:bwc:bugfix")]
  | .check => [("--released <RELEASED>",
      "Published versions file; overrides \x60authoritative.released\x60")]

/-- How the command is used. Options that have no letter stand where the names of the others do. -/
def page (name : CommandName) : HelpPage where
  purpose := name.purpose
  usage := "bwc-matrix " ++ name.word ++ " " ++ name.usage
  sections :=
    let options := ("--config <CONFIG>", "Path to the YAML config file") :: name.optionHelp
    (if name.operandHelp = [] then [] else [⟨"Arguments", name.operandHelp⟩]) ++
      [⟨"Options", options.map (fun (part, explanation) => ("    " ++ part, explanation)) ++
        [("-h, --help", "Print help")]⟩]

end CommandName

namespace HelpTopic

/-- What help does. -/
def helpPurpose : String := "Print this message or the help of the given subcommand(s)"

/-- How the thing that the topic is about is used. -/
def page : HelpTopic → HelpPage
  | .program =>
    let commands := [CommandName.matrix, .info, .previousUnreleased, .check]
    { purpose :=
        "Classify declared versions into released/unreleased and derive the BWC test matrix"
      usage := "bwc-matrix <COMMAND>"
      sections := [
        ⟨"Commands", commands.map (fun name => (name.word, name.purpose)) ++
          [("help", helpPurpose)]⟩,
        ⟨"Options", [("-h, --help", "Print help"), ("-V, --version", "Print version")]⟩] }
  | .command name => name.page
  | .help =>
    { purpose := helpPurpose
      usage := "bwc-matrix help [COMMAND]..."
      sections := [⟨"Arguments", [("[COMMAND]...", "Print help for the subcommand(s)")]⟩] }

/-- The text of the help on the topic. -/
def text (topic : HelpTopic) : String := topic.page.text

end HelpTopic

end ReleaseMatrix
