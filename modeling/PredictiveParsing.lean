import PredictiveParsing.Conformance.Laws
import PredictiveParsing.Conformance.Long
import PredictiveParsing.Diagnostic.Report
import PredictiveParsing.Grammar.Calculator
import PredictiveParsing.Grammar.Json
import PredictiveParsing.Grammar.TokenCalculator
import PredictiveParsing.Proofs.Agreement
import PredictiveParsing.Proofs.Associativity
import PredictiveParsing.Proofs.Conformance
import PredictiveParsing.Proofs.Decimals
import PredictiveParsing.Proofs.Defaults
import PredictiveParsing.Proofs.Derivatives
import PredictiveParsing.Proofs.Documents
import PredictiveParsing.Proofs.Expressions
import PredictiveParsing.Proofs.History
import PredictiveParsing.Proofs.Identities
import PredictiveParsing.Proofs.Integers
import PredictiveParsing.Proofs.Leaves
import PredictiveParsing.Proofs.LeftRecursion
import PredictiveParsing.Proofs.Locations
import PredictiveParsing.Proofs.LongestMatch
import PredictiveParsing.Proofs.Mirrors
import PredictiveParsing.Proofs.Patterns
import PredictiveParsing.Proofs.Polls
import PredictiveParsing.Proofs.Reading
import PredictiveParsing.Proofs.Repetition
import PredictiveParsing.Proofs.Reports
import PredictiveParsing.Proofs.Unmet
import PredictiveParsing.Proofs.Until
import PredictiveParsing.Proofs.Verdict
import PredictiveParsing.Workbench.Bench
