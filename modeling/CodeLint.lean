import CodeLint.Digest.Sha256
import CodeLint.Json.Basic
import CodeLint.Json.Printer
import CodeLint.Json.Reader
import CodeLint.Lint.Analysis
import CodeLint.Lint.Analyzer
import CodeLint.Lint.Assign
import CodeLint.Lint.BuiltIn
import CodeLint.Lint.Checks
import CodeLint.Lint.Fault
import CodeLint.Lint.Issue
import CodeLint.Lint.Naming
import CodeLint.Lint.Read
import CodeLint.Lint.Session
import CodeLint.Measure.Coverage
import CodeLint.Measure.Fingerprint
import CodeLint.Measure.Frame
import CodeLint.Measure.History
import CodeLint.Measure.Profile
import CodeLint.Measure.Report
import CodeLint.Measure.Round
import CodeLint.Measure.Runner
import CodeLint.Measure.SelfCheck
import CodeLint.Measure.Stamp
import CodeLint.Measure.Suite
import CodeLint.Measure.TimeShare
import CodeLint.Measure.Value
import CodeLint.Measure.Verdict
import CodeLint.Number.Double
import CodeLint.Number.Fixed
import CodeLint.Number.Nearest
import CodeLint.Number.Reading
import CodeLint.Number.Shortest
import CodeLint.Ordered
import CodeLint.Proofs.Appending
import CodeLint.Proofs.BoundNames
import CodeLint.Proofs.BuiltNodes
import CodeLint.Proofs.CallMarks
import CodeLint.Proofs.ChosenFiles
import CodeLint.Proofs.ComparisonChains
import CodeLint.Proofs.ConstantNames
import CodeLint.Proofs.Convergence
import CodeLint.Proofs.Docstrings
import CodeLint.Proofs.Effect
import CodeLint.Proofs.EndlessLoops
import CodeLint.Proofs.Entering
import CodeLint.Proofs.FailingBenches
import CodeLint.Proofs.Findings
import CodeLint.Proofs.Fingerprints
import CodeLint.Proofs.GeneratedSources
import CodeLint.Proofs.HighlightedFaults
import CodeLint.Proofs.Highlighting
import CodeLint.Proofs.JsonText
import CodeLint.Proofs.LineSearch
import CodeLint.Proofs.LineShift
import CodeLint.Proofs.LocalChecks
import CodeLint.Proofs.LoopNesting
import CodeLint.Proofs.MarginLines
import CodeLint.Proofs.MixedReturns
import CodeLint.Proofs.NameBenches
import CodeLint.Proofs.Names
import CodeLint.Proofs.NestedCalls
import CodeLint.Proofs.NumberText
import CodeLint.Proofs.Occurrence
import CodeLint.Proofs.OpenedFiles
import CodeLint.Proofs.Ordered
import CodeLint.Proofs.Origins
import CodeLint.Proofs.ParseSteps
import CodeLint.Proofs.ParsedExpressions
import CodeLint.Proofs.ParsedLiterals
import CodeLint.Proofs.ParsedPrograms
import CodeLint.Proofs.Principal
import CodeLint.Proofs.PrintedRows
import CodeLint.Proofs.ReadTokens
import CodeLint.Proofs.ReadValues
import CodeLint.Proofs.Records
import CodeLint.Proofs.RepeatedAnalyses
import CodeLint.Proofs.RepoFrames
import CodeLint.Proofs.ReportCounts
import CodeLint.Proofs.RoundHistory
import CodeLint.Proofs.Rounding
import CodeLint.Proofs.Rounds
import CodeLint.Proofs.Run
import CodeLint.Proofs.Safe
import CodeLint.Proofs.Scopes
import CodeLint.Proofs.SelfChecks
import CodeLint.Proofs.Sessions
import CodeLint.Proofs.ShiftedTree
import CodeLint.Proofs.ShortestDecimal
import CodeLint.Proofs.Splitting
import CodeLint.Proofs.Suites
import CodeLint.Proofs.Totality
import CodeLint.Proofs.Traversal
import CodeLint.Proofs.Undefined
import CodeLint.Proofs.UnusableOutput
import CodeLint.Proofs.UnusedImports
import CodeLint.Proofs.UnusedVariables
import CodeLint.Proofs.Utf8Text
import CodeLint.Proofs.Verdicts
import CodeLint.Proofs.Visibility
import CodeLint.Proofs.WellFormed
import CodeLint.Proofs.WindowHistory
import CodeLint.Source.Cursor
import CodeLint.Source.Escape
import CodeLint.Source.Fault
import CodeLint.Source.Formatted
import CodeLint.Source.Grammar
import CodeLint.Source.Grammar.Argument
import CodeLint.Source.Grammar.Compound
import CodeLint.Source.Grammar.Comprehension
import CodeLint.Source.Grammar.Display
import CodeLint.Source.Grammar.Expression
import CodeLint.Source.Grammar.Literal
import CodeLint.Source.Grammar.Parameter
import CodeLint.Source.Grammar.Pattern
import CodeLint.Source.Grammar.Rule
import CodeLint.Source.Grammar.Simple
import CodeLint.Source.Grammar.Target
import CodeLint.Source.Input
import CodeLint.Source.Lexer
import CodeLint.Source.Number
import CodeLint.Source.Numeral
import CodeLint.Source.Parse
import CodeLint.Source.Program
import CodeLint.Source.Token
import CodeLint.Text.Blank
import CodeLint.Text.Case
import CodeLint.Text.CharacterName
import CodeLint.Text.CharacterName.Ancient
import CodeLint.Text.CharacterName.Further
import CodeLint.Text.CharacterName.Pictures
import CodeLint.Text.CharacterName.Scripts
import CodeLint.Text.CharacterName.Signs
import CodeLint.Text.CharacterName.Syllables
import CodeLint.Text.CharacterName.Symbols
import CodeLint.Text.CharacterName.Words
import CodeLint.Text.Digit
import CodeLint.Text.Margin
import CodeLint.Text.Name
import CodeLint.Text.Normal
import CodeLint.Text.Normal.Marks
import CodeLint.Text.Normal.Several
import CodeLint.Text.Normal.Single
import CodeLint.Text.Printable
import CodeLint.Text.Quoted
import CodeLint.Text.Ranges
import CodeLint.Text.Split
import CodeLint.Text.Utf8
import CodeLint.Text.Word
import CodeLint.Tree.Kind
import CodeLint.Tree.Node
import CodeLint.Window.Action
import CodeLint.Window.Files
import CodeLint.Window.Index
import CodeLint.Window.Window
import CodeLint.Workload.Bench
import CodeLint.Workload.Source
