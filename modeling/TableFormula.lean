import TableFormula.Calendar.Clock
import TableFormula.Calendar.Date
import TableFormula.Calendar.Epoch
import TableFormula.Calendar.Everyday.Entries
import TableFormula.Calendar.Everyday.Reader
import TableFormula.Calendar.Everyday.Word
import TableFormula.Calendar.Iso
import TableFormula.Calendar.Moment
import TableFormula.Column
import TableFormula.Column.Given
import TableFormula.Column.Inference
import TableFormula.Computation.Basic
import TableFormula.Computation.Inference
import TableFormula.Computation.Pipeline
import TableFormula.Evaluation.Context
import TableFormula.Fault
import TableFormula.Formula.Basic
import TableFormula.Formula.Check
import TableFormula.Formula.Evaluate
import TableFormula.Formula.Operation
import TableFormula.Formula.Parse
import TableFormula.Function.Choice
import TableFormula.Function.Date
import TableFormula.Function.Logic
import TableFormula.Function.Math
import TableFormula.Function.Meaning
import TableFormula.Function.Name
import TableFormula.Function.Rule
import TableFormula.Function.Text
import TableFormula.Function.Total
import TableFormula.Json.Basic
import TableFormula.Json.Literal
import TableFormula.Json.Quoted
import TableFormula.Json.Reader
import TableFormula.Json.Writer
import TableFormula.Log.Console
import TableFormula.Log.Level
import TableFormula.Log.Line
import TableFormula.Log.Message
import TableFormula.Log.Raised
import TableFormula.Log.Record
import TableFormula.Log.Session
import TableFormula.Log.Template
import TableFormula.Number.Arithmetic
import TableFormula.Number.BinaryFraction
import TableFormula.Number.Decimal
import TableFormula.Number.Notation
import TableFormula.Number.Numeral
import TableFormula.Number.Places
import TableFormula.Number.Rounding
import TableFormula.Number.Shortest
import TableFormula.Problem
import TableFormula.Proofs.Calendar.Days
import TableFormula.Proofs.Calendar.Iso
import TableFormula.Proofs.Calendar.Months
import TableFormula.Proofs.Column.Closeness
import TableFormula.Proofs.Column.Insertion
import TableFormula.Proofs.Computation.Columns
import TableFormula.Proofs.Computation.Notes
import TableFormula.Proofs.Computation.Pipelines
import TableFormula.Proofs.Computation.RowOrder
import TableFormula.Proofs.Computation.Sample
import TableFormula.Proofs.Computation.Totality
import TableFormula.Proofs.Evaluation.Cascade
import TableFormula.Proofs.Evaluation.Connectives
import TableFormula.Proofs.Evaluation.Counts
import TableFormula.Proofs.Evaluation.Course
import TableFormula.Proofs.Evaluation.Depth
import TableFormula.Proofs.Evaluation.Equality
import TableFormula.Proofs.Evaluation.Extrema
import TableFormula.Proofs.Evaluation.Faults
import TableFormula.Proofs.Evaluation.Inlining
import TableFormula.Proofs.Evaluation.Joins
import TableFormula.Proofs.Evaluation.Limit
import TableFormula.Proofs.Evaluation.Lockstep
import TableFormula.Proofs.Evaluation.Means
import TableFormula.Proofs.Evaluation.Origin
import TableFormula.Proofs.Evaluation.Outcome
import TableFormula.Proofs.Evaluation.References
import TableFormula.Proofs.Evaluation.Relevance
import TableFormula.Proofs.Evaluation.Results
import TableFormula.Proofs.Evaluation.Totals
import TableFormula.Proofs.Json.Decoding
import TableFormula.Proofs.Log.Entries
import TableFormula.Proofs.Log.Lines
import TableFormula.Proofs.Log.Sessions
import TableFormula.Proofs.Log.Templates
import TableFormula.Proofs.Number.Bits
import TableFormula.Proofs.Number.Decimals
import TableFormula.Proofs.Number.Digits
import TableFormula.Proofs.Number.Division
import TableFormula.Proofs.Number.Nearest
import TableFormula.Proofs.Number.Numerals
import TableFormula.Proofs.Number.Order
import TableFormula.Proofs.Number.Sizes
import TableFormula.Proofs.Number.Whole
import TableFormula.Proofs.Number.Written
import TableFormula.Proofs.Syntax.Completeness
import TableFormula.Proofs.Syntax.Draft
import TableFormula.Proofs.Syntax.Gaps
import TableFormula.Proofs.Syntax.Grammar
import TableFormula.Proofs.Syntax.Language
import TableFormula.Proofs.Syntax.Layout
import TableFormula.Proofs.Syntax.Lexis
import TableFormula.Proofs.Syntax.Locality
import TableFormula.Proofs.Syntax.Nesting
import TableFormula.Proofs.Syntax.Reader
import TableFormula.Proofs.Syntax.References
import TableFormula.Proofs.Syntax.Soundness
import TableFormula.Proofs.Syntax.Spans
import TableFormula.Proofs.Syntax.Vocabulary
import TableFormula.Proofs.Syntax.Words
import TableFormula.Proofs.Text.Occurrences
import TableFormula.Proofs.Text.Parts
import TableFormula.Proofs.Text.Printed
import TableFormula.Proofs.Value.Distance
import TableFormula.Proofs.Value.Moments
import TableFormula.Proofs.Value.Numbers
import TableFormula.Proofs.Value.Shifts
import TableFormula.Proofs.Value.Texts
import TableFormula.Report
import TableFormula.Settings
import TableFormula.Settings.Reading
import TableFormula.Text.Blank
import TableFormula.Text.Case
import TableFormula.Text.CaseTable
import TableFormula.Text.Digit
import TableFormula.Text.Letter
import TableFormula.Text.Printable
import TableFormula.Text.Span
import TableFormula.Token.Basic
import TableFormula.Token.Scan
import TableFormula.Value.Basic
import TableFormula.Value.Reading
