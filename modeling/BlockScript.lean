import BlockScript.Main
import BlockScript.Processor
import BlockScript.Proofs.Nesting
import BlockScript.Proofs.Extraction
import BlockScript.Proofs.Lines
import BlockScript.Proofs.Recovery.Closure
import BlockScript.Proofs.Digits
import BlockScript.Proofs.Recovery.Extraction
import BlockScript.Proofs.Grammar.Stack
import BlockScript.Proofs.Recovery.Validation
import BlockScript.Proofs.Branches
import BlockScript.Proofs.Optimization.Consolidation
import BlockScript.Proofs.Optimization.NormalForm
import BlockScript.Proofs.Optimization.Winner
import BlockScript.Proofs.Number.Order
import BlockScript.Proofs.Cache.Answers
import BlockScript.Proofs.Expression.Topics
import BlockScript.Proofs.Evaluator.Isolation
import BlockScript.Proofs.Evaluator.Staleness
import BlockScript.Proofs.Execution.Exclusion
import BlockScript.Proofs.Grammar.Acceptance
import BlockScript.Proofs.Expression.Failures
import BlockScript.Proofs.Execution.Totality
import BlockScript.Proofs.Recovery.Accounting
import BlockScript.Proofs.Ancestors
import BlockScript.Proofs.Grammar.Ancestors
import BlockScript.Proofs.Sentence.Processing
import BlockScript.Proofs.Extraction.Classes
import BlockScript.Proofs.Inheritance
import BlockScript.Proofs.Numerals
import BlockScript.Proofs.Compilation.Reports
import BlockScript.Proofs.Sentence.Argument
import BlockScript.Proofs.Optimization.Groups
import BlockScript.Proofs.Token.Patterns
import BlockScript.Proofs.Token.Spans
import BlockScript.Proofs.Token.Endings
import BlockScript.Proofs.Token.Shapes
import BlockScript.Proofs.Token.Source
import BlockScript.Proofs.Statement.Words
import BlockScript.Proofs.Statement.Source
import BlockScript.Proofs.Number.Writing
import BlockScript.Proofs.Selectors
import BlockScript.Proofs.Options
import BlockScript.Proofs.Parents
import BlockScript.Proofs.Stream
import BlockScript.Proofs.Locality
import BlockScript.Proofs.Statement.Pairs
import BlockScript.Proofs.Extraction.Identifiers
import BlockScript.Proofs.Token.Gaps
import BlockScript.Proofs.Alias
import BlockScript.Proofs.Number.Rounding
import BlockScript.Proofs.Cache.Operations
import BlockScript.Proofs.Cache.Sweeps
import BlockScript.Proofs.Expression.Quotes
import BlockScript.Proofs.Expression.Coherence
import BlockScript.Proofs.Execution.Fates
