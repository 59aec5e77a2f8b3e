import DispatchAudit.Audit.Check
import DispatchAudit.Audit.Diagnosis
import DispatchAudit.Audit.Sources
import DispatchAudit.Audit.Verdict
import DispatchAudit.CommandLine.Arguments
import DispatchAudit.CommandLine.Report
import DispatchAudit.CommandLine.Run
import DispatchAudit.CommandLine.Usage
import DispatchAudit.Decimal.Binary64
import DispatchAudit.Decimal.Shortest
import DispatchAudit.Failure
import DispatchAudit.Files.Entry
import DispatchAudit.Files.Expansion
import DispatchAudit.Files.FilePath
import DispatchAudit.Files.Pattern
import DispatchAudit.Files.Workspace
import DispatchAudit.Json.Number
import DispatchAudit.Json.Skip
import DispatchAudit.Json.Stop
import DispatchAudit.Json.Token
import DispatchAudit.Json.Value
import DispatchAudit.Main
import DispatchAudit.Proofs.Audit.Acceptance
import DispatchAudit.Proofs.Audit.Details
import DispatchAudit.Proofs.Audit.Expanding
import DispatchAudit.Proofs.Audit.Explanation
import DispatchAudit.Proofs.Audit.Failing
import DispatchAudit.Proofs.Audit.Items
import DispatchAudit.Proofs.Audit.Joining
import DispatchAudit.Proofs.Audit.Layout
import DispatchAudit.Proofs.Audit.Notes
import DispatchAudit.Proofs.Audit.Reading
import DispatchAudit.Proofs.Audit.Reordering
import DispatchAudit.Proofs.Audit.RoundTrip
import DispatchAudit.Proofs.CommandLine.Choices
import DispatchAudit.Proofs.CommandLine.Ending
import DispatchAudit.Proofs.CommandLine.Legibility
import DispatchAudit.Proofs.CommandLine.Loading
import DispatchAudit.Proofs.CommandLine.Options
import DispatchAudit.Proofs.CommandLine.Recovery
import DispatchAudit.Proofs.CommandLine.Reports
import DispatchAudit.Proofs.CommandLine.Weaving
import DispatchAudit.Proofs.Files.Ancestors
import DispatchAudit.Proofs.Files.Blocks
import DispatchAudit.Proofs.Files.Counting
import DispatchAudit.Proofs.Files.Downwards
import DispatchAudit.Proofs.Files.Matching
import DispatchAudit.Proofs.Files.Ordering
import DispatchAudit.Proofs.Files.PatternTexts
import DispatchAudit.Proofs.Files.Trees
import DispatchAudit.Proofs.Files.Walking
import DispatchAudit.Proofs.Files.Writing
import DispatchAudit.Proofs.Json.Decoding
import DispatchAudit.Proofs.Json.Giving
import DispatchAudit.Proofs.Json.Grammar
import DispatchAudit.Proofs.Json.Numbers
import DispatchAudit.Proofs.Json.Placement
import DispatchAudit.Proofs.Json.Printing
import DispatchAudit.Proofs.Json.Scalars
import DispatchAudit.Proofs.Json.Skipping
import DispatchAudit.Proofs.Json.Strings
import DispatchAudit.Proofs.Json.Uniqueness
import DispatchAudit.Proofs.Keyed
import DispatchAudit.Proofs.Roster.Counting
import DispatchAudit.Proofs.Roster.Differences
import DispatchAudit.Proofs.Roster.Excess
import DispatchAudit.Proofs.Roster.Passes
import DispatchAudit.Proofs.Roster.Selection
import DispatchAudit.Proofs.Roster.Views
import DispatchAudit.Proofs.Settings.Acceptable
import DispatchAudit.Proofs.Settings.Decoding
import DispatchAudit.Proofs.Settings.Elements
import DispatchAudit.Proofs.Settings.Encoding
import DispatchAudit.Proofs.Settings.Fitness
import DispatchAudit.Proofs.Settings.Markers
import DispatchAudit.Proofs.Settings.Members
import DispatchAudit.Proofs.Settings.Search
import DispatchAudit.Proofs.Source.Declarations
import DispatchAudit.Proofs.Source.Delimited
import DispatchAudit.Proofs.Source.Extracted
import DispatchAudit.Proofs.Source.Names
import DispatchAudit.Proofs.Source.Region
import DispatchAudit.Proofs.Source.Rows
import DispatchAudit.Proofs.Source.Spacing
import DispatchAudit.Proofs.Steps
import DispatchAudit.Proofs.Text.Digits
import DispatchAudit.Proofs.Text.Lines
import DispatchAudit.Proofs.Text.Padded
import DispatchAudit.Proofs.Text.Runs
import DispatchAudit.Proofs.Text.Separated
import DispatchAudit.Proofs.Text.Trimmed
import DispatchAudit.Roster
import DispatchAudit.Settings.Basic
import DispatchAudit.Settings.Decode
import DispatchAudit.Settings.Encode
import DispatchAudit.Settings.Load
import DispatchAudit.Settings.Value
import DispatchAudit.Source.Declaration
import DispatchAudit.Source.Dispatch
import DispatchAudit.Source.TableRow
import DispatchAudit.Text.Blank
import DispatchAudit.Text.CodeRange
import DispatchAudit.Text.Line
import DispatchAudit.Text.Quoted
import DispatchAudit.Text.Terminal
import DispatchAudit.Text.UnprintedTable
import DispatchAudit.Text.Word
import DispatchAudit.Text.WordTable
