import Summand.CommandLine.Basic
import Summand.CommandLine.Dialogue
import Summand.CommandLine.File
import Summand.CommandLine.Request
import Summand.CommandLine.Transcript
import Summand.Decimal.Literal
import Summand.Decimal.Positional
import Summand.Decimal.Shortest
import Summand.Diagnostic.Basic
import Summand.Diagnostic.Log
import Summand.Evaluation.Block
import Summand.Evaluation.Environment
import Summand.Evaluation.Formula
import Summand.Evaluation.Interpreter
import Summand.Evaluation.Value
import Summand.Main
import Summand.Program.Basic
import Summand.Program.BlockReader
import Summand.Program.ExprReader
import Summand.Program.Parser
import Summand.Program.Printer
import Summand.Program.Reader
import Summand.Proofs.CommandLine.Dialogue
import Summand.Proofs.Evaluation.CallDepth
import Summand.Proofs.Evaluation.Counter
import Summand.Proofs.Evaluation.FormedCode
import Summand.Proofs.Evaluation.Naming
import Summand.Proofs.Evaluation.Operands
import Summand.Proofs.Evaluation.Preservation
import Summand.Proofs.Evaluation.Remarks
import Summand.Proofs.Evaluation.Sequence
import Summand.Proofs.Evaluation.Steps
import Summand.Proofs.Evaluation.Sums
import Summand.Proofs.Evaluation.Unread
import Summand.Proofs.Program.Accounting
import Summand.Proofs.Program.Advance
import Summand.Proofs.Program.Continuation
import Summand.Proofs.Program.Descent
import Summand.Proofs.Program.Expressions
import Summand.Proofs.Program.Layout
import Summand.Proofs.Program.Mentions
import Summand.Proofs.Program.Online
import Summand.Proofs.Program.Origins
import Summand.Proofs.Program.RoundTrip
import Summand.Proofs.Program.Shape
import Summand.Proofs.Program.Spelled
import Summand.Proofs.Program.Step
import Summand.Proofs.Program.Trace
import Summand.Proofs.Session.Lines
import Summand.Proofs.Session.OutputLines
import Summand.Proofs.Session.Settings
import Summand.Proofs.Session.Stages
import Summand.Proofs.Session.Staging
import Summand.Proofs.Session.Wiring
import Summand.Proofs.Text.OneLine
import Summand.Proofs.Text.Trimming
import Summand.Proofs.Token.Canonical
import Summand.Proofs.Token.Coverage
import Summand.Proofs.Token.Lexemes
import Summand.Proofs.Token.Schedule
import Summand.Proofs.Token.Spelling
import Summand.Session.Basic
import Summand.Session.Config
import Summand.Text.Blank
import Summand.Text.Escape
import Summand.Text.Printable
import Summand.Text.Ranges
import Summand.Text.WordChar
import Summand.Token.Basic
import Summand.Token.Lexeme
import Summand.Token.Lexer
