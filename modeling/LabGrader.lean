import LabGrader.Assignment
import LabGrader.Batch.Loop
import LabGrader.Batch.Preparation
import LabGrader.Batch.Rehearsal
import LabGrader.Batch.Step
import LabGrader.Batch.Task
import LabGrader.Breakdown
import LabGrader.CommandLine.Arguments
import LabGrader.CommandLine.Log
import LabGrader.CommandLine.Run
import LabGrader.Duration
import LabGrader.Error
import LabGrader.Folder.Basic
import LabGrader.Folder.Pattern
import LabGrader.Folder.Search
import LabGrader.Job
import LabGrader.Json.Reader
import LabGrader.Json.Token
import LabGrader.Json.Value
import LabGrader.Judge.Chat
import LabGrader.Judge.Error
import LabGrader.Judge.Retry
import LabGrader.Judge.Script
import LabGrader.Main
import LabGrader.Number.Basic
import LabGrader.Number.Binary
import LabGrader.Number.Decimal
import LabGrader.Number.Shortest
import LabGrader.Number.Style
import LabGrader.Path
import LabGrader.Proofs.Batch.Breakdowns
import LabGrader.Proofs.Batch.Completion
import LabGrader.Proofs.Batch.Course
import LabGrader.Proofs.Batch.Outcome
import LabGrader.Proofs.Batch.Permits
import LabGrader.Proofs.Batch.Plan
import LabGrader.Proofs.Batch.Refinement
import LabGrader.Proofs.Batch.Step
import LabGrader.Proofs.Breakdown.Names
import LabGrader.Proofs.Folder.Home
import LabGrader.Proofs.Judge.Retry
import LabGrader.Proofs.Report.Delimited
import LabGrader.Proofs.Response.Fields
import LabGrader.Proofs.Settings.Precedence
import LabGrader.Proofs.Source.Bare
import LabGrader.Proofs.Source.Lexing
import LabGrader.Proofs.Submission.Cleaning
import LabGrader.Proofs.Submission.LineEndings
import LabGrader.Proofs.Text.Cut
import LabGrader.Proofs.Text.LineEndings
import LabGrader.Proofs.Text.Lines
import LabGrader.Record
import LabGrader.Report.File
import LabGrader.Report.Format
import LabGrader.Report.Table
import LabGrader.Response
import LabGrader.Settings.Basic
import LabGrader.Settings.EnvironmentFile
import LabGrader.Settings.Layer
import LabGrader.Settings.Load
import LabGrader.Source.Blanking
import LabGrader.Style
import LabGrader.Submission
import LabGrader.Text.Alphanumeric
import LabGrader.Text.Basic
import LabGrader.Text.Blank
import LabGrader.Text.CharRange
import LabGrader.Text.Ligature
import LabGrader.Text.Lines
import LabGrader.Text.Printable
import LabGrader.Text.Quoted
import LabGrader.Text.Utf8
import LabGrader.Text.Width
import LabGrader.Text.WidthTable
import LabGrader.Ungraded
import LabGrader.Proofs.Number.Exact
import LabGrader.Proofs.Record.Scores
import LabGrader.Proofs.Submission.Rendering
import LabGrader.Proofs.Json.Tokens
import LabGrader.Proofs.Json.Reading
import LabGrader.Proofs.Report.Json
import LabGrader.Proofs.Folder.Way
import LabGrader.Proofs.Job.Fatal
import LabGrader.Proofs.CommandLine.Session
import LabGrader.Proofs.Submission.Partition
import LabGrader.Judge.Inquiry
import LabGrader.Proofs.Judge.Inquiry
import LabGrader.Proofs.Style.Report
import LabGrader.Proofs.Source.Streaming
import LabGrader.Proofs.Breakdown.Claims
import LabGrader.Proofs.Submission.Fences
import LabGrader.Proofs.Number.Overflow
import LabGrader.Proofs.Json.Rejecting
import LabGrader.Proofs.Report.Finite
import LabGrader.Proofs.Batch.Authors
import LabGrader.Proofs.Settings.EmptyLayer
import LabGrader.Proofs.Folder.Limits
import LabGrader.Proofs.Batch.Answers
import LabGrader.Proofs.Path.Order
import LabGrader.Proofs.Folder.Pattern
import LabGrader.Proofs.Folder.Pieces
import LabGrader.Proofs.Folder.Stops
import LabGrader.Proofs.Folder.Search
import LabGrader.Proofs.Text.Order
import LabGrader.Proofs.Judge.Permanent
import LabGrader.Judge.Backoff
import LabGrader.Proofs.Judge.Backoff
import LabGrader.Grammar
import LabGrader.Response.Rule
import LabGrader.Proofs.Text.Places
import LabGrader.Proofs.Response.Rules
import LabGrader.Text.Offset
import LabGrader.Prompt
import LabGrader.Proofs.Text.Bytes
import LabGrader.Proofs.Text.Offset
import LabGrader.Proofs.Prompt.Cut
