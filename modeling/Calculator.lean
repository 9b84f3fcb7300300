import Calculator.Answer
import Calculator.Arithmetic
import Calculator.CommandLine
import Calculator.ErrorKind
import Calculator.Evaluation
import Calculator.Expression.Chain
import Calculator.Expression.Cursor
import Calculator.Expression.Descent
import Calculator.Expression.Error
import Calculator.Expression.Evaluate
import Calculator.Expression.Grammar
import Calculator.Expression.Group
import Calculator.Expression.Passes
import Calculator.Expression.Scan
import Calculator.Expression.Step
import Calculator.Expression.Tree
import Calculator.Json.Basic
import Calculator.Json.Printer
import Calculator.Json.Reader
import Calculator.Main
import Calculator.NamedFunction
import Calculator.Number.Decimal
import Calculator.Number.Grammar
import Calculator.Number.Numeral
import Calculator.Number.Pattern
import Calculator.Number.Printer
import Calculator.Number.Reader
import Calculator.Number.Shortest
import Calculator.Session
import Calculator.Settings
import Calculator.Text.Blank
import Calculator.Text.Hex
import Calculator.Text.Letters
import Calculator.Text.Markup
import Calculator.Text.Printable
import Calculator.Text.Quoted
import Calculator.Proofs.Arithmetic
import Calculator.Proofs.Moves
import Calculator.Proofs.Descent
import Calculator.Proofs.Completion
import Calculator.Proofs.Grammar
import Calculator.Proofs.Tree
import Calculator.Proofs.ErrorPlace
import Calculator.Proofs.ErrorCause
import Calculator.Proofs.Continuation
import Calculator.Proofs.Groups
import Calculator.Proofs.Commands
import Calculator.Proofs.JsonNumbers
import Calculator.Proofs.JsonText
import Calculator.Proofs.Records
import Calculator.Proofs.Transcript
import Calculator.Proofs.Chains
import Calculator.Proofs.Dispatch
import Calculator.Proofs.Numerals
import Calculator.Proofs.Arguments
import Calculator.Proofs.ExactDoubles
import Calculator.Proofs.ReadBack
import Calculator.Proofs.SignedRuns
import Calculator.Proofs.SignRuns
import Calculator.Proofs.Lookahead
import Calculator.Proofs.Spaces
import Calculator.Proofs.Messages
import Calculator.Proofs.CursorSteps
import Calculator.Proofs.OpenGroups
import Calculator.Proofs.Loops
