import Reckoner.Main
import Reckoner.Session
import Reckoner.Proofs.Text.Trim
import Reckoner.Proofs.Text.Lines
import Reckoner.Proofs.Text.Legible
import Reckoner.Proofs.Token.Character
import Reckoner.Proofs.Token.Division
import Reckoner.Proofs.Token.Folding
import Reckoner.Proofs.Token.Forward
import Reckoner.Proofs.Token.Grouping
import Reckoner.Proofs.Token.Nesting
import Reckoner.Proofs.PostOrder.Run
import Reckoner.Proofs.PostOrder.Tree
import Reckoner.Proofs.PostOrder.Substitution
import Reckoner.Proofs.PostOrder.Arrangement
import Reckoner.Proofs.PostOrder.Layers
import Reckoner.Proofs.Number.Canonical
import Reckoner.Proofs.Number.Numeral
import Reckoner.Proofs.Number.RoundTrip
import Reckoner.Proofs.Number.Tidy
import Reckoner.Proofs.Number.Size
import Reckoner.Proofs.Arithmetic
import Reckoner.Proofs.Evaluation
import Reckoner.Proofs.Evaluation.Stack
import Reckoner.Proofs.Evaluation.Load
import Reckoner.Proofs.Evaluation.Estimate
import Reckoner.Proofs.Evaluation.Depth
import Reckoner.Proofs.Evaluation.Refusal
import Reckoner.Proofs.Evaluation.Frame
import Reckoner.Proofs.Calculator.Frailty
import Reckoner.Proofs.Calculator.Operands
import Reckoner.Proofs.Calculator.Resolution
import Reckoner.Proofs.Calculator.Result
import Reckoner.Proofs.Calculator.Display
import Reckoner.Proofs.Calculator.Growth
import Reckoner.Proofs.Calculator.Reentry
import Reckoner.Proofs.Calculator.Gaps
import Reckoner.Proofs.Calculator.NormalForm
import Reckoner.Proofs.Expression.Tree
import Reckoner.Proofs.Expression.Form
import Reckoner.Proofs.Expression.PostOrder
import Reckoner.Proofs.Expression.Reading
import Reckoner.Proofs.Expression.Spelling
import Reckoner.Proofs.Expression.Printing
import Reckoner.Proofs.Expression.Zeros
import Reckoner.Proofs.Process.Work
import Reckoner.Proofs.Process.Calculator
import Reckoner.Proofs.Process.Session
import Reckoner.Proofs.Session.Route
import Reckoner.Proofs.Session.Assignment
import Reckoner.Proofs.Session.Agreement
import Reckoner.Proofs.Session.Effect
import Reckoner.Proofs.Session.Run
import Reckoner.Proofs.Session.Dropping
import Reckoner.Proofs.Session.Isolation
import Reckoner.Proofs.Session.Provenance
import Reckoner.Proofs.Session.Confinement
import Reckoner.Proofs.Session.Widening
import Reckoner.Proofs.Journal.Line
import Reckoner.Proofs.Journal.Event
import Reckoner.Proofs.Journal.Magnitude
import Reckoner.Proofs.Journal.Loss
import Reckoner.Proofs.Journal.Telling
import Reckoner.Proofs.Journal.Failure
import Reckoner.Proofs.Report.Json
import Reckoner.Proofs.CommandLine.Reply
import Reckoner.Proofs.CommandLine.Clause
import Reckoner.Proofs.CommandLine.Dialogue
import Reckoner.Proofs.CommandLine.Once
import Reckoner.Proofs.CommandLine.Keeping
import Reckoner.Proofs.CommandLine.Journal
import Reckoner.Proofs.CommandLine.Records
