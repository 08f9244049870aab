import LintVerdict.CommandLine.Action
import LintVerdict.Config
import LintVerdict.Dispatch
import LintVerdict.ExitStatus
import LintVerdict.FileList
import LintVerdict.Ignore.Walk
import LintVerdict.Json.Reader
import LintVerdict.Main
import LintVerdict.Process.Executor
import LintVerdict.Process.GitRoot
import LintVerdict.Process.Install
import LintVerdict.Report.Collector
import LintVerdict.Report.Format
import LintVerdict.Shell.Machine
import LintVerdict.Proofs.Dispatch.Attempt
import LintVerdict.Proofs.Dispatch.Run
import LintVerdict.Proofs.Pattern.Explore
import LintVerdict.Proofs.Pattern.Ways
import LintVerdict.Proofs.Pattern.Matches
import LintVerdict.Proofs.Pattern.Shorthand
import LintVerdict.Proofs.Text
import LintVerdict.Proofs.Pattern.Entries
import LintVerdict.Proofs.Decimal
import LintVerdict.Proofs.Pattern.Printed
import LintVerdict.Proofs.Pattern.Append
import LintVerdict.Proofs.FirstError
import LintVerdict.Proofs.Template.Grammar
import LintVerdict.Proofs.Dispatch.Failure
import LintVerdict.Proofs.Dispatch.Configuration
import LintVerdict.Proofs.Pattern.Avoid
import LintVerdict.Proofs.Pattern.Part
import LintVerdict.Proofs.Pattern.Builtin
import LintVerdict.Proofs.Builtin
import LintVerdict.Proofs.Text.Split
import LintVerdict.Proofs.Files.Walk
import LintVerdict.Proofs.Files.Spelling
import LintVerdict.Proofs.Files.Location
import LintVerdict.Proofs.Report.Annotation
import LintVerdict.Proofs.Template.Braces
import LintVerdict.Proofs.Pattern.Numbers
import LintVerdict.Proofs.Dispatch.Order
import LintVerdict.Proofs.Dispatch.Visits
import LintVerdict.Proofs.CommandLine.Lint
import LintVerdict.Proofs.CommandLine.Scopes
import LintVerdict.Proofs.CommandLine.Fault
import LintVerdict.Proofs.CommandLine.Root
import LintVerdict.Proofs.Scope.Directory
import LintVerdict.Proofs.Scope.Argument
import LintVerdict.Proofs.Scope.Distinct
import LintVerdict.Proofs.Linter.Target
import LintVerdict.Proofs.Report.Style
import LintVerdict.Proofs.Json.Grammar
import LintVerdict.Proofs.Json.Pretty
import LintVerdict.Proofs.Report.Document
import LintVerdict.Proofs.Dispatch.Selection
import LintVerdict.Proofs.Linter.Registry
import LintVerdict.Proofs.Config.Search
import LintVerdict.Proofs.Toml.Tables
import LintVerdict.Proofs.Config.Record
import LintVerdict.Proofs.Config.Decoding
import LintVerdict.Proofs.Template.Rendering
import LintVerdict.Proofs.Process.Install
import LintVerdict.Proofs.Process.Plan
import LintVerdict.Proofs.CommandLine.Label
import LintVerdict.Proofs.Files.Growth
import LintVerdict.Proofs.CommandLine.Located
import LintVerdict.Proofs.Template.Display
import LintVerdict.Proofs.Template.Rounds
import LintVerdict.Proofs.Scope.Union
import LintVerdict.Proofs.Pattern.Live
import LintVerdict.Proofs.Pattern.Through
import LintVerdict.Proofs.Pattern.Preferred
import LintVerdict.Proofs.Pattern.Numbering
import LintVerdict.Proofs.Pattern.Successive
import LintVerdict.Proofs.Pattern.Image
import LintVerdict.Proofs.Pattern.WholeLine
import LintVerdict.Proofs.Linter.Applicability
import LintVerdict.Proofs.Report.Collector
import LintVerdict.Proofs.Process.Turns
import LintVerdict.Proofs.Text.ByteOrder
import LintVerdict.Proofs.Files.Join
import LintVerdict.Proofs.Linter.GoFiles
import LintVerdict.Proofs.Files.Naming
import LintVerdict.Proofs.Text.Lines
import LintVerdict.Proofs.FileList
import LintVerdict.Proofs.Process.Executor
import LintVerdict.Proofs.Process.Output
import LintVerdict.Proofs.Ignore.Walk
import LintVerdict.Proofs.Ignore.Listing
