import SuiteLint.Block
import SuiteLint.Check
import SuiteLint.Check.Apply
import SuiteLint.Check.Block
import SuiteLint.Check.Configure
import SuiteLint.Check.Description
import SuiteLint.Check.General
import SuiteLint.Check.Suite
import SuiteLint.CommandLine.ArgumentFile
import SuiteLint.CommandLine.Help
import SuiteLint.CommandLine.Option
import SuiteLint.CommandLine.Word
import SuiteLint.Doc
import SuiteLint.Document
import SuiteLint.Fault
import SuiteLint.FileTree
import SuiteLint.Folder
import SuiteLint.Main
import SuiteLint.Path
import SuiteLint.Pattern
import SuiteLint.Position
import SuiteLint.Proofs.Decoding
import SuiteLint.Registry
import SuiteLint.Remark
import SuiteLint.Row
import SuiteLint.Rule
import SuiteLint.RulePack
import SuiteLint.Session
import SuiteLint.Session.Arguments
import SuiteLint.Session.Lint
import SuiteLint.Session.Run
import SuiteLint.Statement
import SuiteLint.Stopwatch
import SuiteLint.Table
import SuiteLint.Template
import SuiteLint.Template.Fault
import SuiteLint.Template.Layout
import SuiteLint.Template.Number
import SuiteLint.Text
import SuiteLint.Text.Blank
import SuiteLint.Text.Case
import SuiteLint.Text.CaseRanges
import SuiteLint.Text.Digit
import SuiteLint.Text.Lines
import SuiteLint.Text.Printable
import SuiteLint.Text.Quoted
import SuiteLint.Text.Ranges
import SuiteLint.Text.Utf8
import SuiteLint.Proofs.Placement
import SuiteLint.Proofs.Actions
import SuiteLint.Proofs.AppliedRules
import SuiteLint.Proofs.Linting
import SuiteLint.Proofs.FolderVisits
import SuiteLint.Proofs.TunedRules
import SuiteLint.Proofs.UnreadableFile
import SuiteLint.Proofs.Runs
import SuiteLint.Proofs.Reporting
import SuiteLint.Proofs.Safety
import SuiteLint.Proofs.Trace
import SuiteLint.Proofs.LineNumbers
import SuiteLint.Proofs.Output
import SuiteLint.Proofs.Severities
import SuiteLint.Proofs.SeverityOptions
import SuiteLint.Proofs.Plans
import SuiteLint.Proofs.Nesting
import SuiteLint.Proofs.ArgumentFiles
import SuiteLint.Proofs.RuleListing
import SuiteLint.Proofs.Separators
import SuiteLint.Proofs.TwoReadings
import SuiteLint.Proofs.LineEndings
import SuiteLint.Proofs.ExitStatus
import SuiteLint.Proofs.FolderWalk
import SuiteLint.Proofs.StatementRows
import SuiteLint.Proofs.TrailingComments
import SuiteLint.Proofs.TableNames
import SuiteLint.Proofs.UnknownTables
import SuiteLint.Proofs.AlikeBlocks
import SuiteLint.Proofs.BrokenRows
import SuiteLint.Proofs.SettingStatements
import SuiteLint.Proofs.InsertedRows
import SuiteLint.Proofs.CommentedRows
import SuiteLint.Proofs.EmptySteps
import SuiteLint.Proofs.LastSeverity
import SuiteLint.Proofs.VariableNames
import SuiteLint.Proofs.BlankEnds
import SuiteLint.Proofs.RepeatedNames
import SuiteLint.Proofs.TrimmedDescriptions
import SuiteLint.Proofs.DescribedRules
import SuiteLint.Proofs.RefusedOptions
import SuiteLint.Proofs.Headings
