import BuildShell.Cursor
import BuildShell.Main
import BuildShell.Scans
import BuildShell.Visitor
import BuildShell.Proofs.Scan.Step
import BuildShell.Proofs.Scan.Steps
import BuildShell.Proofs.Scan.Tokenization
import BuildShell.Proofs.Reading.Layout
import BuildShell.Proofs.Reading.Reads
import BuildShell.Proofs.Scan.Begins
import BuildShell.Proofs.Reading.Parts
import BuildShell.Proofs.Reading.Written
import BuildShell.Proofs.Reading.Decomposition
import BuildShell.Proofs.Reading.Says
import BuildShell.Proofs.Text.Words
import BuildShell.Proofs.Text.Quoted
import BuildShell.Proofs.Text.Characters
import BuildShell.Proofs.Reading.Arguments
import BuildShell.Proofs.ScopedKey.RoundTrip
import BuildShell.Proofs.Reading.Completable
import BuildShell.Proofs.Scan.Append
import BuildShell.Proofs.Report
import BuildShell.Proofs.Prompt
import BuildShell.Proofs.Outline
import BuildShell.Proofs.Outline.Printing
import BuildShell.Proofs.Report.Recovery
import BuildShell.Proofs.Report.Lines
import BuildShell.Proofs.Walk
import BuildShell.Proofs.Span
import BuildShell.Proofs.Node
import BuildShell.Proofs.Node.Equality
import BuildShell.Proofs.Node.Observers
import BuildShell.Proofs.Reading.Spans
import BuildShell.Proofs.Reading.Margin
import BuildShell.Proofs.Reading.Equality
import BuildShell.Proofs.Reading.Causes
import BuildShell.Proofs.Reading.Shift
import BuildShell.Proofs.Reading.Lookahead
import BuildShell.Proofs.Cursor.Stepwise
import BuildShell.Proofs.Cursor.Trace
import BuildShell.Proofs.Cursor.Reading
import BuildShell.Proofs.Cursor.Grammar
import BuildShell.Proofs.Cursor.History
import BuildShell.Proofs.Cursor.Progress
import BuildShell.Proofs.Scans
import BuildShell.Proofs.Printer
