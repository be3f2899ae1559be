import ReactLint.Service.Session
import ReactLint.Report.Plain
import ReactLint.Proofs.Block.Enclosing
import ReactLint.Proofs.Finding.Category
import ReactLint.Proofs.Text.Padding
import ReactLint.Proofs.Text.Trim
import ReactLint.Proofs.Text.Utf8
import ReactLint.Proofs.Blank.Line
import ReactLint.Proofs.Import.Name
import ReactLint.Proofs.Blank.Report
import ReactLint.Proofs.Blank.Trailing
import ReactLint.Proofs.Blank.Indentation
import ReactLint.Proofs.Finding.Shift
import ReactLint.Proofs.Finding.Limit
import ReactLint.Proofs.Path.Routing
import ReactLint.Proofs.Service.Plan
import ReactLint.Proofs.Service.Kept
import ReactLint.Proofs.Service.Endpoint
import ReactLint.Proofs.Service.Resolution
import ReactLint.Proofs.Service.StoredFile
import ReactLint.Proofs.Import.Span
import ReactLint.Proofs.Text.Identifier
import ReactLint.Proofs.Import.Usage
import ReactLint.Proofs.Import.Printing
import ReactLint.Proofs.Import.RoundTrip
import ReactLint.Proofs.Comment.Automaton
import ReactLint.Proofs.Block.Cover
import ReactLint.Proofs.Call.Console
import ReactLint.Proofs.Comment.Closing
import ReactLint.Proofs.Function.Printing
import ReactLint.Proofs.Block.Span
import ReactLint.Proofs.Report.Layout
import ReactLint.Proofs.Threshold.Entrywise
import ReactLint.Proofs.Report.Order
import ReactLint.Proofs.Report.Summary
import ReactLint.Proofs.Comment.Quoting
import ReactLint.Proofs.Hook.Rename
import ReactLint.Proofs.Service.Variable
import ReactLint.Proofs.Finding.Enumeration
import ReactLint.Proofs.Finding.Name
import ReactLint.Proofs.Block.Suffix
import ReactLint.Proofs.Comment.Inline
import ReactLint.Proofs.Hook.Level
import ReactLint.Proofs.File.Isolation
import ReactLint.Proofs.Report.Block
import ReactLint.Proofs.Finding.Entry
import ReactLint.Proofs.Block.Visit
