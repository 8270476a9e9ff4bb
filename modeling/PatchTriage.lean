import PatchTriage.Text.Blank
import PatchTriage.Text.Case
import PatchTriage.Text.CodeSet
import PatchTriage.Text.Digit
import PatchTriage.Text.Hex
import PatchTriage.Text.Lines
import PatchTriage.Text.Printable
import PatchTriage.Text.Quoted
import PatchTriage.Text.Search
import PatchTriage.Text.Similarity
import PatchTriage.Text.Utf8
import PatchTriage.Text.Word
import PatchTriage.Table
import PatchTriage.Binary64.Basic
import PatchTriage.Binary64.Text
import PatchTriage.Binary64.Double
import PatchTriage.Binary64.Notation
import PatchTriage.Template.Value
import PatchTriage.Template.Misfit
import PatchTriage.Template.Directive
import PatchTriage.Template.Fill
import PatchTriage.Json.Basic
import PatchTriage.Json.Numeral
import PatchTriage.Json.Printer
import PatchTriage.Json.Written
import PatchTriage.Json.Reader
import PatchTriage.Json.Token
import PatchTriage.Digest
import PatchTriage.Pattern.Basic
import PatchTriage.Pattern.Reader
import PatchTriage.Fault
import PatchTriage.Schema.Checked
import PatchTriage.Schema.Convert
import PatchTriage.Schema.Violation
import PatchTriage.Telemetry.Captured
import PatchTriage.Telemetry.Context
import PatchTriage.Telemetry.Event
import PatchTriage.Telemetry.Handler
import PatchTriage.Telemetry.Layout
import PatchTriage.Telemetry.Level
import PatchTriage.Telemetry.Line
import PatchTriage.Telemetry.Log
import PatchTriage.Telemetry.Message
import PatchTriage.Telemetry.Measuring
import PatchTriage.Telemetry.Metrics
import PatchTriage.Telemetry.Work
import PatchTriage.Patch.Basic
import PatchTriage.Patch.Header
import PatchTriage.Patch.Parser
import PatchTriage.Patch.Totals
import PatchTriage.Path
import PatchTriage.Language
import PatchTriage.Change.Basic
import PatchTriage.Change.Candidate
import PatchTriage.Change.Classifier
import PatchTriage.Change.Generic
import PatchTriage.Change.Go
import PatchTriage.Change.Json
import PatchTriage.Change.Rules
import PatchTriage.Change.TypeScript
import PatchTriage.Risk.Assess
import PatchTriage.Risk.Basic
import PatchTriage.Risk.Explain
import PatchTriage.Risk.Json
import PatchTriage.Risk.Rules
import PatchTriage.Report.Basic
import PatchTriage.Report.Markdown
import PatchTriage.Report.Recommendation
import PatchTriage.Report.Summary
import PatchTriage.Settings.Basic
import PatchTriage.Settings.File
import PatchTriage.Settings.Sources
import PatchTriage.Analysis.Input
import PatchTriage.Analysis.Measures
import PatchTriage.Analysis.Pipeline
import PatchTriage.Analysis.Run
import PatchTriage.CommandLine.Arguments
import PatchTriage.CommandLine.FileTree
import PatchTriage.CommandLine.Request
import PatchTriage.CommandLine.Run
import PatchTriage.CommandLine.Usage
import PatchTriage.Main
import PatchTriage.Proofs.Cut
import PatchTriage.Proofs.Table
import PatchTriage.Proofs.Table.Ranking
import PatchTriage.Proofs.Text.Decimal
import PatchTriage.Proofs.Text.Split
import PatchTriage.Proofs.Text.Joined
import PatchTriage.Proofs.Text.Written
import PatchTriage.Proofs.Text.Utf8
import PatchTriage.Proofs.Text.Case
import PatchTriage.Proofs.Path
import PatchTriage.Proofs.Patch.Header
import PatchTriage.Proofs.Patch.Filling
import PatchTriage.Proofs.Patch.Pass
import PatchTriage.Proofs.Patch.Writing
import PatchTriage.Proofs.Patch.RoundTrip
import PatchTriage.Proofs.Patch.ChangedLines
import PatchTriage.Proofs.Patch.Segments
import PatchTriage.Proofs.Patch.Failure
import PatchTriage.Proofs.Patch.Changes
import PatchTriage.Proofs.Patch.Concatenation
import PatchTriage.Proofs.Patch.WellFormed
import PatchTriage.Proofs.Patch.Grammar
import PatchTriage.Proofs.Pattern.Matching
import PatchTriage.Proofs.Pattern.Line
import PatchTriage.Proofs.Pattern.LetterCase
import PatchTriage.Proofs.Binary64.Bounds
import PatchTriage.Proofs.Binary64.Rounding
import PatchTriage.Proofs.Binary64.Monotone
import PatchTriage.Proofs.Binary64.Text
import PatchTriage.Proofs.Telemetry.Faults
import PatchTriage.Proofs.Telemetry.Counts
import PatchTriage.Proofs.Telemetry.Scopes
import PatchTriage.Proofs.Telemetry.Trace
import PatchTriage.Proofs.Change.Scores
import PatchTriage.Proofs.Change.Confidence
import PatchTriage.Proofs.Change.Verdict
import PatchTriage.Proofs.Change.Details
import PatchTriage.Proofs.Change.Isolation
import PatchTriage.Proofs.Change.Reordering
import PatchTriage.Proofs.Change.Refinement
import PatchTriage.Proofs.Change.Raised
import PatchTriage.Proofs.Risk.Scores
import PatchTriage.Proofs.Risk.Json
import PatchTriage.Proofs.Risk.Isolation
import PatchTriage.Proofs.Risk.Monotone
import PatchTriage.Proofs.Risk.Extension
import PatchTriage.Proofs.Schema.Checked
import PatchTriage.Proofs.Settings.Resolution
import PatchTriage.Proofs.Analysis.Outcome
import PatchTriage.Proofs.Analysis.Agreement
import PatchTriage.Proofs.Analysis.Isolation
import PatchTriage.Proofs.Analysis.Observation
import PatchTriage.Proofs.Analysis.Conclusion
import PatchTriage.Proofs.Analysis.Accounting
import PatchTriage.Proofs.Report.Page
import PatchTriage.Proofs.Report.FileTable
import PatchTriage.Proofs.Report.Recommendations
import PatchTriage.Proofs.CommandLine.Arguments
import PatchTriage.Proofs.CommandLine.Output
import PatchTriage.Proofs.Report.Breakdown
import PatchTriage.Proofs.Binary64.Decimal
import PatchTriage.Proofs.Json.Numeral
import PatchTriage.Proofs.Binary64.Double
import PatchTriage.Proofs.Telemetry.Summary
import PatchTriage.Proofs.Json.Token
import PatchTriage.Proofs.Json.RoundTrip
import PatchTriage.Proofs.Json.Written
import PatchTriage.Proofs.Telemetry.Line
