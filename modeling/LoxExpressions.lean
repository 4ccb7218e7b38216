import LoxExpressions.Main
import LoxExpressions.Source.Description
import LoxExpressions.Proofs.Lexical.Class
import LoxExpressions.Proofs.Lexical.LongestMatch
import LoxExpressions.Proofs.Lexical.Report
import LoxExpressions.Proofs.Lexical.Seam
import LoxExpressions.Proofs.Lexical.Respelling
import LoxExpressions.Proofs.Lexical.Recovery
import LoxExpressions.Proofs.Syntax.Grammar
import LoxExpressions.Proofs.Syntax.Reading
import LoxExpressions.Proofs.Syntax.Completeness
import LoxExpressions.Proofs.Syntax.Outcome
import LoxExpressions.Proofs.Syntax.Acceptance
import LoxExpressions.Proofs.Syntax.Halt
import LoxExpressions.Proofs.Syntax.Misfit
import LoxExpressions.Proofs.Syntax.Depth
import LoxExpressions.Proofs.Syntax.Context
import LoxExpressions.Proofs.Accepted
import LoxExpressions.Proofs.Fault
import LoxExpressions.Proofs.Trace
import LoxExpressions.Proofs.Kinds
import LoxExpressions.Proofs.FirstFault
import LoxExpressions.Proofs.Relabel
import LoxExpressions.Proofs.Layout
import LoxExpressions.Proofs.Stacked
import LoxExpressions.Proofs.Composition
import LoxExpressions.Proofs.Placement
import LoxExpressions.Proofs.Output.Emission
import LoxExpressions.Proofs.Output.Performance
import LoxExpressions.Proofs.Output.Writing
import LoxExpressions.Proofs.Number.Nearest
import LoxExpressions.Proofs.Number.Numeral
import LoxExpressions.Proofs.Number.Word
import LoxExpressions.Proofs.Number.RoundTrip
import LoxExpressions.Proofs.Session.Lines
import LoxExpressions.Proofs.Session.Transcript
import LoxExpressions.Proofs.Session.Limits
import LoxExpressions.Proofs.Agreement
import LoxExpressions.Proofs.Lines
import LoxExpressions.Proofs.Output.Listing
import LoxExpressions.Proofs.Output.Printed
import LoxExpressions.Proofs.Collector
import LoxExpressions.Proofs.Source.Position
import LoxExpressions.Proofs.Syntax.Descent
import LoxExpressions.Proofs.Syntax.Calls
import LoxExpressions.Proofs.Syntax.Returns
