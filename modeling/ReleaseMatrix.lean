import ReleaseMatrix.Check
import ReleaseMatrix.Collection.Search
import ReleaseMatrix.Collection.SortedSet
import ReleaseMatrix.Collection.Table
import ReleaseMatrix.Command
import ReleaseMatrix.CommandLine
import ReleaseMatrix.Compatible
import ReleaseMatrix.Config
import ReleaseMatrix.Declaration
import ReleaseMatrix.Document
import ReleaseMatrix.EnvironmentFile
import ReleaseMatrix.EnvironmentFile.Statement
import ReleaseMatrix.EnvironmentFile.Value
import ReleaseMatrix.Failure
import ReleaseMatrix.FilePath
import ReleaseMatrix.Files
import ReleaseMatrix.Help
import ReleaseMatrix.Json.Pretty
import ReleaseMatrix.Json.Reader
import ReleaseMatrix.Json.Value
import ReleaseMatrix.Lines.Minor
import ReleaseMatrix.Lines.Retained
import ReleaseMatrix.Main
import ReleaseMatrix.Matrix.Basic
import ReleaseMatrix.Matrix.Error
import ReleaseMatrix.Policy.Basic
import ReleaseMatrix.Policy.Document
import ReleaseMatrix.Policy.ReleaseOrder
import ReleaseMatrix.Program
import ReleaseMatrix.Project
import ReleaseMatrix.Properties
import ReleaseMatrix.Published
import ReleaseMatrix.Report
import ReleaseMatrix.Script
import ReleaseMatrix.Text.Alphanumeric
import ReleaseMatrix.Text.Blank
import ReleaseMatrix.Text.CodePoints
import ReleaseMatrix.Text.Cut
import ReleaseMatrix.Text.DecimalDigit
import ReleaseMatrix.Text.Lines
import ReleaseMatrix.Text.Numeral
import ReleaseMatrix.Text.Quoted
import ReleaseMatrix.Text.Visible
import ReleaseMatrix.Text.Word
import ReleaseMatrix.Unreleased
import ReleaseMatrix.Version.Basic
import ReleaseMatrix.Version.Text
import ReleaseMatrix.Yaml.BlockScalar
import ReleaseMatrix.Yaml.Mark
import ReleaseMatrix.Yaml.Node
import ReleaseMatrix.Yaml.Property
import ReleaseMatrix.Yaml.Reader
import ReleaseMatrix.Yaml.Scalar
import ReleaseMatrix.Yaml.Token
import ReleaseMatrix.Proofs.Lines
import ReleaseMatrix.Proofs.Development
import ReleaseMatrix.Proofs.Construction
import ReleaseMatrix.Proofs.Leaves
import ReleaseMatrix.Proofs.Compatibility
import ReleaseMatrix.Proofs.CompatibleLists
import ReleaseMatrix.Proofs.Released
import ReleaseMatrix.Proofs.Projects
import ReleaseMatrix.Proofs.Classification
import ReleaseMatrix.Proofs.Branches
import ReleaseMatrix.Proofs.BranchLookup
import ReleaseMatrix.Proofs.TrunkAdvance
import ReleaseMatrix.Proofs.ReleaseStep
import ReleaseMatrix.Proofs.Verdict
import ReleaseMatrix.Proofs.VerdictOrder
import ReleaseMatrix.Proofs.StandardPolicy
import ReleaseMatrix.Proofs.Dependence
import ReleaseMatrix.Proofs.Retention
import ReleaseMatrix.Proofs.OwnVersions
import ReleaseMatrix.Proofs.FirstLine
import ReleaseMatrix.Proofs.Pending
import ReleaseMatrix.Proofs.Lookups
import ReleaseMatrix.Proofs.Output
import ReleaseMatrix.Proofs.PublishedFile
import ReleaseMatrix.Proofs.Agreement
import ReleaseMatrix.Proofs.VersionGrammar
import ReleaseMatrix.Proofs.DeclarationGrammar
import ReleaseMatrix.Proofs.PublishedEntries
import ReleaseMatrix.Proofs.PropertyFile
import ReleaseMatrix.Proofs.CurrentVersion
import ReleaseMatrix.Proofs.PrintedReport
import ReleaseMatrix.Proofs.PreviousLines
import ReleaseMatrix.Proofs.JsonGrammar
import ReleaseMatrix.Proofs.JsonReport
import ReleaseMatrix.Proofs.DeclaredVersions
import ReleaseMatrix.Proofs.LineEndings
import ReleaseMatrix.Proofs.PolicyNumbers
import ReleaseMatrix.Proofs.PolicyDocument
import ReleaseMatrix.Proofs.FilePaths
import ReleaseMatrix.Proofs.Relocation
