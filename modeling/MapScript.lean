import MapScript.Text.Case
import MapScript.Text.Quoted
import MapScript.Text.Blank
import MapScript.Number.Exact
import MapScript.Number.Layout
import MapScript.Number.Reading
import MapScript.Expr.Error
import MapScript.Expr.Literal
import MapScript.Expr.Token
import MapScript.Expr.Tree
import MapScript.Expr.Eval
import MapScript.Json.Reader
import MapScript.Error
import MapScript.Function
import MapScript.Scope
import MapScript.Span
import MapScript.Resolver
import MapScript.Builtin.Color
import MapScript.Builtin.Points
import MapScript.Builtin.Random
import MapScript.Builtin.Table
import MapScript.Directive
import MapScript.Globals
import MapScript.Script
import MapScript.Session
import MapScript.CommandLine.Print
import MapScript.CommandLine.Report
import MapScript.Main
import MapScript.Proofs.Replacement
import MapScript.Proofs.Shadowing
import MapScript.Proofs.Deterministic
import MapScript.Proofs.Nesting
import MapScript.Proofs.Traces
import MapScript.Proofs.RunErrors
import MapScript.Proofs.Updates
import MapScript.Proofs.Lifecycle
import MapScript.Proofs.Coherence
import MapScript.Proofs.Independence
import MapScript.Proofs.Redefinition
import MapScript.Proofs.Convergence
import MapScript.Proofs.Grouping
import MapScript.Proofs.Leniency
import MapScript.Proofs.WholeNumbers
import MapScript.Proofs.Numerals
import MapScript.Proofs.Marking
import MapScript.Proofs.Literals
import MapScript.Proofs.Outline
import MapScript.Proofs.BareLiterals
import MapScript.Proofs.Balance
import MapScript.Proofs.Descent
import MapScript.Proofs.Siblings
import MapScript.Proofs.CallNesting
import MapScript.Proofs.Focus
import MapScript.Proofs.Bytes
import MapScript.Proofs.Surroundings
import MapScript.Proofs.Occurrences
import MapScript.Proofs.Attribution
import MapScript.Proofs.CallSites
import MapScript.Proofs.Rewrapping
import MapScript.Proofs.Repetitions
import MapScript.Proofs.Usage
import MapScript.Proofs.InsertionOrder
import MapScript.Proofs.LowerCase
import MapScript.Proofs.Registration
import MapScript.Proofs.Definitions
import MapScript.Proofs.PointScaling
import MapScript.Proofs.ExactOrder
import MapScript.Proofs.IntegerDraws
