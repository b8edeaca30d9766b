import Descent.DebugFlags
import Descent.Main
import Descent.Notation.Build
import Descent.Notation.Composition
import Descent.Notation.Control
import Descent.Notation.Grammar
import Descent.Proofs.Operator.Expression
import Descent.Proofs.Parser.Agreement
import Descent.Proofs.Parser.Escape
import Descent.Proofs.Parser.Furthest
import Descent.Proofs.Parser.Lexing
import Descent.Proofs.Parser.Mirror
import Descent.Proofs.Parser.Redecoration
import Descent.Proofs.Diagnostic.Record
import Descent.Proofs.Parser.Objection
import Descent.Proofs.Parser.Ahead
import Descent.Proofs.Operator.Orderly
import Descent.Proofs.Calculator.Lexer
import Descent.Proofs.Calculator.Grammar
import Descent.Proofs.Parser.Likeness
import Descent.Proofs.Parser.Lockstep
import Descent.Proofs.Parser.Confinement
import Descent.Proofs.Parser.Scanning
import Descent.Proofs.Token.Literal
import Descent.Proofs.Parser.Commitment
import Descent.Proofs.Parser.Span
import Descent.Proofs.Operator.Blind
import Descent.Proofs.Parser.Layout
import Descent.Proofs.Calculator.Layout
import Descent.Proofs.Token.Vocabulary
import Descent.Proofs.Parser.Induction
import Descent.Proofs.Parser.Trace
import Descent.Proofs.Parser.Discreet
import Descent.Proofs.Token.Lexemes
import Descent.Proofs.Calculator.Coverage
import Descent.Proofs.Parser.Ledger
import Descent.Proofs.Parser.Recall
import Descent.Proofs.Parser.Separated
import Descent.Proofs.Parser.Unwinding
import Descent.Proofs.Parser.Widening
import Descent.Proofs.Parser.Choice
import Descent.Proofs.Diagnostic.Bracketing
import Descent.Proofs.Parser.Expectation
import Descent.Proofs.Token.Operators
import Descent.Proofs.Token.Quotation
import Descent.Proofs.Token.Digits
import Descent.Proofs.Pattern.Lexical
import Descent.Proofs.Parser.BlockComment
import Descent.Proofs.Parser.NestedComment
import Descent.Proofs.Parser.Idle
import Descent.Proofs.Pattern.Unrolling
import Descent.Proofs.Parser.Delimiter
import Descent.Proofs.Position.Walk
import Descent.Proofs.Operator.Grouping
