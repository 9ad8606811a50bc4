import Precedence.Arithmetic
import Precedence.Command
import Precedence.Command.Escape
import Precedence.Command.Line
import Precedence.Diagnostic
import Precedence.Evaluation.Machine
import Precedence.Evaluation.Memory
import Precedence.Evaluation.Value
import Precedence.Highlight
import Precedence.Kind
import Precedence.Kind.Arithmetic
import Precedence.Kind.Table
import Precedence.Lexed
import Precedence.Main
import Precedence.Number.Literal
import Precedence.Number.Power
import Precedence.Number.Rounding
import Precedence.Number.Shortest
import Precedence.Parse.Context
import Precedence.Parse.Expression
import Precedence.Parser
import Precedence.Pattern.Alternatives
import Precedence.Pattern.Basic
import Precedence.Pattern.CharSet
import Precedence.Pattern.Error
import Precedence.Pattern.Lexeme
import Precedence.Pattern.Matching
import Precedence.Pattern.Place
import Precedence.Pattern.Reader
import Precedence.Pattern.Reader.Basic
import Precedence.Pattern.Reader.Brackets
import Precedence.Pattern.Reader.Escape
import Precedence.Pattern.Reader.Group
import Precedence.Pattern.Reader.Quantifier
import Precedence.Pattern.Width
import Precedence.Proofs.Arithmetic.Acceptance
import Precedence.Proofs.Arithmetic.Building
import Precedence.Proofs.Arithmetic.Composition
import Precedence.Proofs.Arithmetic.Foreign
import Precedence.Proofs.Arithmetic.Handling
import Precedence.Proofs.Arithmetic.Negation
import Precedence.Proofs.Arithmetic.Nesting
import Precedence.Proofs.Arithmetic.Operands
import Precedence.Proofs.Arithmetic.Phrase
import Precedence.Proofs.Arithmetic.Priority
import Precedence.Proofs.Arithmetic.Recognition
import Precedence.Proofs.Arithmetic.Rendering
import Precedence.Proofs.Arithmetic.Sequences
import Precedence.Proofs.Arithmetic.Sexp
import Precedence.Proofs.Arithmetic.Shape
import Precedence.Proofs.Arithmetic.Spacing
import Precedence.Proofs.Arithmetic.Steps
import Precedence.Proofs.Command.Announcement
import Precedence.Proofs.Command.Configured
import Precedence.Proofs.Command.Reporting
import Precedence.Proofs.Evaluation.BigStep
import Precedence.Proofs.Evaluation.Depth
import Precedence.Proofs.Evaluation.Errors
import Precedence.Proofs.Evaluation.Frame
import Precedence.Proofs.Evaluation.Statements
import Precedence.Proofs.Except
import Precedence.Proofs.Lexing.Coloring
import Precedence.Proofs.Lexing.Extension
import Precedence.Proofs.Lexing.Lexicon
import Precedence.Proofs.Lexing.Padded
import Precedence.Proofs.Lexing.Pieces
import Precedence.Proofs.Lexing.Placement
import Precedence.Proofs.Lexing.Reordering
import Precedence.Proofs.Lexing.Segmentation
import Precedence.Proofs.Number.Decimal
import Precedence.Proofs.Operators.Formula
import Precedence.Proofs.Operators.Grouping
import Precedence.Proofs.Parse.Consumption
import Precedence.Proofs.Parse.Lookahead
import Precedence.Proofs.Parse.Procedure
import Precedence.Proofs.Parse.Progress
import Precedence.Proofs.Parse.Reading
import Precedence.Proofs.Parse.Result
import Precedence.Proofs.Parse.Runs
import Precedence.Proofs.Parse.Session
import Precedence.Proofs.Parse.Termination
import Precedence.Proofs.Parse.Trace
import Precedence.Proofs.Pattern.Bounds
import Precedence.Proofs.Script.Emission
import Precedence.Proofs.Script.Expr
import Precedence.Proofs.Script.Language
import Precedence.Proofs.Script.Meaning
import Precedence.Proofs.Script.Operands
import Precedence.Proofs.Script.Preservation
import Precedence.Proofs.Script.Rereading
import Precedence.Proofs.Script.RoundTrip
import Precedence.Proofs.Settings.Loading
import Precedence.Proofs.Settings.Search
import Precedence.Proofs.Tree.Below
import Precedence.Proofs.Tree.Form
import Precedence.Proofs.Tree.Sexp
import Precedence.Proofs.Tree.Statements
import Precedence.Proofs.Tree.Writing
import Precedence.Rule
import Precedence.Runtime
import Precedence.Scope
import Precedence.Script.Name
import Precedence.Script.Statement
import Precedence.Settings
import Precedence.Settings.Path
import Precedence.Settings.Search
import Precedence.Text.Case
import Precedence.Text.Digit
import Precedence.Text.Identifier
import Precedence.Text.Printable
import Precedence.Text.Quoted
import Precedence.Text.Ranges
import Precedence.Text.Space
import Precedence.Text.Word
import Precedence.Toml.Document
import Precedence.Toml.Error
import Precedence.Toml.Scalar
import Precedence.Toml.Value
import Precedence.Tree
import Precedence.Tree.Negation
import Precedence.Tree.Operator
import Precedence.Tree.Quoted
import Precedence.Tree.Sexp
import Precedence.Tree.Statements
