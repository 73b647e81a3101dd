import Progeny.CommandLine.Command
import Progeny.CommandLine.Host
import Progeny.CommandLine.Session
import Progeny.CommandLine.Syntax
import Progeny.Compiler.Basic
import Progeny.Compiler.External
import Progeny.Crossover
import Progeny.Decimal.Double
import Progeny.Decimal.Fixed
import Progeny.Decimal.Shortest
import Progeny.Diagnostic
import Progeny.Duration
import Progeny.Evaluation
import Progeny.Evolution.Config
import Progeny.Evolution.Run
import Progeny.Fitness
import Progeny.Grammar.Generate
import Progeny.Host.Armour
import Progeny.Host.Blocks
import Progeny.Host.Calendar
import Progeny.Host.Catalogue
import Progeny.Host.Checksum
import Progeny.Host.Comparison.Alignment
import Progeny.Host.Comparison.Lines
import Progeny.Host.Comparison.Octets
import Progeny.Host.Comparison.Trees
import Progeny.Host.Copying
import Progeny.Host.Dump
import Progeny.Host.Echo
import Progeny.Host.Editing.Reader
import Progeny.Host.Editing.Run
import Progeny.Host.Editing.Script
import Progeny.Host.Errand
import Progeny.Host.Expression
import Progeny.Host.Fields
import Progeny.Host.FileTree
import Progeny.Host.Filing
import Progeny.Host.Filling
import Progeny.Host.Finding
import Progeny.Host.Format
import Progeny.Host.Glob
import Progeny.Host.Identity
import Progeny.Host.Inspection
import Progeny.Host.Lines
import Progeny.Host.Listing
import Progeny.Host.Machine
import Progeny.Host.Naming
import Progeny.Host.Numeral
import Progeny.Host.Options
import Progeny.Host.Permission
import Progeny.Host.Precedence
import Progeny.Host.Platform
import Progeny.Host.Process
import Progeny.Host.Progression
import Progeny.Host.Records.Lexer
import Progeny.Host.Records.Parser
import Progeny.Host.Records.Run
import Progeny.Host.Records.State
import Progeny.Host.Records.Syntax
import Progeny.Host.Records.Value
import Progeny.Host.Regex
import Progeny.Host.Searching
import Progeny.Host.Signal
import Progeny.Host.Sorting
import Progeny.Host.Testing
import Progeny.Host.Timing
import Progeny.Host.Tool
import Progeny.Host.Transliteration
import Progeny.Host.Usage
import Progeny.Json.Reader
import Progeny.Json.Value
import Progeny.Lexicon
import Progeny.Main
import Progeny.Mutation
import Progeny.Program.Basic
import Progeny.Program.Json
import Progeny.Program.Random
import Progeny.Random.Draw
import Progeny.Random.Generator
import Progeny.Report
import Progeny.Score
import Progeny.Selection
import Progeny.Sequence.Draw
import Progeny.Sequence.Edit
import Progeny.Sequence.Tally
import Progeny.Sequence.Total
import Progeny.Settings.Json
import Progeny.Settings.Layer
import Progeny.Shell.Arithmetic
import Progeny.Shell.Builtin.Arguments
import Progeny.Shell.Builtin.Jobs
import Progeny.Shell.Builtin.Limits
import Progeny.Shell.Builtin.Places
import Progeny.Shell.Builtin.Variables
import Progeny.Shell.Condition
import Progeny.Shell.Environment
import Progeny.Shell.Execute
import Progeny.Shell.Expand
import Progeny.Shell.Following
import Progeny.Shell.Launch
import Progeny.Shell.Lookup
import Progeny.Shell.Pattern
import Progeny.Shell.Printing
import Progeny.Shell.Program
import Progeny.Shell.Redirect
import Progeny.Shell.Run
import Progeny.Shell.Scan
import Progeny.Shell.Script
import Progeny.Shell.Seeking
import Progeny.Shell.Session
import Progeny.Statement.Basic
import Progeny.Statement.Random
import Progeny.Text.Blank
import Progeny.Text.Utf8
import Progeny.Token
import Progeny.Proofs.Double.Order
import Progeny.Proofs.Random.Yields
import Progeny.Proofs.Breeding
import Progeny.Proofs.Evaluation
import Progeny.Proofs.Evolution.Champion
import Progeny.Proofs.Evolution.Coherence
import Progeny.Proofs.Evolution.Decline
import Progeny.Proofs.Evolution.Extension
import Progeny.Proofs.Evolution.Reporting
import Progeny.Proofs.Evolution.Failure
import Progeny.Proofs.Evolution.WellFormed
import Progeny.Proofs.Grammar.Language
import Progeny.Proofs.Program.Rendering
import Progeny.Proofs.Program.BaseScore
import Progeny.Proofs.Evolution.GenePool
import Progeny.Proofs.Evolution.Growth
import Progeny.Proofs.Ranking
import Progeny.Proofs.Program.Edits
import Progeny.Proofs.Program.Ledger
import Progeny.Proofs.Program.History
import Progeny.Proofs.Statement.Balance
import Progeny.Proofs.Double.Unit
import Progeny.Proofs.Crossover
import Progeny.Proofs.Mutation
import Progeny.Proofs.Evolution.Validation
import Progeny.Proofs.Diagnostic
import Progeny.Proofs.Sequence.Batch
import Progeny.Proofs.Sequence.Targets
import Progeny.Proofs.Statement.Replacement
import Progeny.Proofs.Sequence.Sorting
import Progeny.Proofs.Sequence.Thinning
import Progeny.Proofs.Statement.Frequency
import Progeny.Proofs.Settings.Layering
import Progeny.Proofs.Extremes
import Progeny.Proofs.Grammar.Quarter
