import Quadrature.Bounds
import Quadrature.Coercion.Checked
import Quadrature.Coercion.Issue
import Quadrature.Coercion.Scalar
import Quadrature.CommandLine.Arguments
import Quadrature.CommandLine.Flag
import Quadrature.CommandLine.Run
import Quadrature.CommandLine.Transcript
import Quadrature.Config
import Quadrature.Contract.Document
import Quadrature.Contract.MetaSchema
import Quadrature.Contract.Shape
import Quadrature.Contract.Store
import Quadrature.Expr.Basic
import Quadrature.Expr.Caret
import Quadrature.Expr.Compile
import Quadrature.Expr.Error
import Quadrature.Expr.Function
import Quadrature.Expr.Parse
import Quadrature.Expr.Token
import Quadrature.Failure
import Quadrature.Folder
import Quadrature.Json.Error
import Quadrature.Json.Reader
import Quadrature.Json.Writer
import Quadrature.Main
import Quadrature.Number.Double
import Quadrature.Number.Numeral
import Quadrature.Number.Shortest
import Quadrature.Number.Whole
import Quadrature.Pipeline
import Quadrature.Recorded
import Quadrature.Request
import Quadrature.Result
import Quadrature.Rule.Integrate
import Quadrature.Rule.Method
import Quadrature.Rule.Sum
import Quadrature.Safeguard
import Quadrature.Session
import Quadrature.Text.Blank
import Quadrature.Text.Digit
import Quadrature.Text.Identifier
import Quadrature.Text.Points
import Quadrature.Text.Printable
import Quadrature.Text.Quoted
import Quadrature.Text.Ranges
import Quadrature.Text.UpperCase
import Quadrature.Text.Utf8
import Quadrature.Text.Word
import Quadrature.Value
import Quadrature.Proofs.Expr.Grammar
import Quadrature.Proofs.Expr.Unrolling
import Quadrature.Proofs.Expr.Interpretation
import Quadrature.Proofs.Expr.Reading
import Quadrature.Proofs.Expr.DepthLimit
import Quadrature.Proofs.Expr.NumberWord
import Quadrature.Proofs.Expr.Spelling
import Quadrature.Proofs.Expr.Focus
import Quadrature.Proofs.Caret.Balance
import Quadrature.Proofs.Caret.Operands
import Quadrature.Proofs.Caret.Partners
import Quadrature.Proofs.Caret.Shapes
import Quadrature.Proofs.Caret.Spans
import Quadrature.Proofs.Caret.Step
import Quadrature.Proofs.Caret.Run
import Quadrature.Proofs.Caret.Desugaring
import Quadrature.Proofs.Caret.Glue
import Quadrature.Proofs.Expr.Uses
import Quadrature.Proofs.Caret.Called
import Quadrature.Proofs.Caret.Preservation
import Quadrature.Proofs.Caret.Rejection
import Quadrature.Proofs.Recorded
import Quadrature.Proofs.Pipeline
import Quadrature.Proofs.Caret.Layout
import Quadrature.Proofs.Session
import Quadrature.Proofs.Number.Written
import Quadrature.Proofs.Json.Words
import Quadrature.Proofs.Json.RoundTrip
import Quadrature.Proofs.Contract
import Quadrature.Proofs.CommandLine.Arguments
import Quadrature.Proofs.CommandLine.Run
import Quadrature.Proofs.Rule.Refusal
import Quadrature.Proofs.Rule.Sampling
import Quadrature.Proofs.Expr.Arithmetic
import Quadrature.Proofs.Pipeline.Outcome
import Quadrature.Proofs.Contract.Request
import Quadrature.Proofs.CommandLine.Agreement
import Quadrature.Proofs.Pipeline.Replay
import Quadrature.Proofs.Expr.ViablePrefix
import Quadrature.Proofs.Expr.NameFault
import Quadrature.Proofs.Rule.Arguments
import Quadrature.Proofs.Rule.Degree
import Quadrature.Proofs.Caret.Origin
import Quadrature.Proofs.Expr.Position
import Quadrature.Proofs.Pipeline.Position
import Quadrature.Proofs.Rule.Relations
import Quadrature.Proofs.Rule.Finite
import Quadrature.Proofs.Text.Trim
import Quadrature.Proofs.Number.Numeral
import Quadrature.Proofs.Bounds
import Quadrature.Proofs.Contract.Store
import Quadrature.Proofs.Expr.Scanning
import Quadrature.Proofs.Caret.Conservation
import Quadrature.Proofs.Safeguard
import Quadrature.Proofs.Expr.FreeVariable
import Quadrature.Proofs.Result
import Quadrature.Proofs.Number.Identity
import Quadrature.Proofs.Number.Decimal
import Quadrature.Proofs.Number.Layout
import Quadrature.Proofs.Number.Shortest
import Quadrature.Proofs.Bounds.RoundTrip
import Quadrature.Proofs.Expr.Powers
import Quadrature.Proofs.Caret.Boundary
import Quadrature.Proofs.Expr.Unplaced
import Quadrature.Proofs.Expr.LongChain
