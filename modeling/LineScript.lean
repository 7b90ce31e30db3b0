import LineScript.Buffer.Basic
import LineScript.Buffer.Edit
import LineScript.Buffer.File
import LineScript.Buffer.Position
import LineScript.Buffer.Replace
import LineScript.Buffer.Search
import LineScript.CommandLine.Arguments
import LineScript.CommandLine.Display
import LineScript.CommandLine.Environment
import LineScript.CommandLine.Filter
import LineScript.CommandLine.Help
import LineScript.CommandLine.Session
import LineScript.Error
import LineScript.Files.Lines
import LineScript.Files.Path
import LineScript.Files.Tree
import LineScript.Function.Buffers
import LineScript.Function.Call
import LineScript.Function.Directories
import LineScript.Function.Evaluation
import LineScript.Function.Numbers
import LineScript.Function.Signature
import LineScript.Function.Texts
import LineScript.Glob.FileName
import LineScript.Glob.Pattern
import LineScript.Journal
import LineScript.Main
import LineScript.Number.Decimal
import LineScript.Number.Double
import LineScript.Number.Power
import LineScript.Number.Shortest
import LineScript.Proofs.Buffer.Access
import LineScript.Proofs.Buffer.Adaptation
import LineScript.Proofs.Buffer.ChangedFlag
import LineScript.Proofs.Buffer.Clamping
import LineScript.Proofs.Buffer.Confinement
import LineScript.Proofs.Buffer.EditAccess
import LineScript.Proofs.Buffer.Hits
import LineScript.Proofs.Buffer.InRange
import LineScript.Proofs.Buffer.Insertion
import LineScript.Proofs.Buffer.Iteration
import LineScript.Proofs.Buffer.Offsets
import LineScript.Proofs.Buffer.Places
import LineScript.Proofs.Buffer.Position
import LineScript.Proofs.Buffer.Reachable
import LineScript.Proofs.Buffer.Reloading
import LineScript.Proofs.Buffer.Removal
import LineScript.Proofs.Buffer.Repetition
import LineScript.Proofs.Buffer.ReplaceAccess
import LineScript.Proofs.Buffer.Replacement
import LineScript.Proofs.Buffer.Saved
import LineScript.Proofs.Buffer.SearchAccess
import LineScript.Proofs.Buffer.Splices
import LineScript.Proofs.Buffer.Whole
import LineScript.Proofs.Files.Lines
import LineScript.Proofs.Files.Requests
import LineScript.Proofs.Files.Tree
import LineScript.Proofs.Function.Orderly
import LineScript.Proofs.Function.Steady
import LineScript.Proofs.Function.Whole
import LineScript.Proofs.Lookup
import LineScript.Proofs.Outcome
import LineScript.Proofs.Regex.Bounds
import LineScript.Proofs.Run.Books
import LineScript.Proofs.Run.Breaks
import LineScript.Proofs.Run.Calls
import LineScript.Proofs.Run.Carries
import LineScript.Proofs.Run.Checked
import LineScript.Proofs.Run.Confinement
import LineScript.Proofs.Run.Effect
import LineScript.Proofs.Run.Linked
import LineScript.Proofs.Run.Loaded
import LineScript.Proofs.Run.Loading
import LineScript.Proofs.Run.Lockstep
import LineScript.Proofs.Run.LoopGuard
import LineScript.Proofs.Run.Moves
import LineScript.Proofs.Run.Orderly
import LineScript.Proofs.Run.Outcomes
import LineScript.Proofs.Run.Promises
import LineScript.Proofs.Run.Restoration
import LineScript.Proofs.Run.Runs
import LineScript.Proofs.Run.Statement
import LineScript.Proofs.Run.Steady
import LineScript.Proofs.Run.Steps
import LineScript.Proofs.Run.Substitutions
import LineScript.Proofs.Run.Termination
import LineScript.Proofs.Run.TreeMachine
import LineScript.Proofs.Run.Unguarded
import LineScript.Proofs.Run.Unwinding
import LineScript.Proofs.Run.Values
import LineScript.Proofs.Run.Whole
import LineScript.Proofs.Run.WholeLines
import LineScript.Proofs.Run.WholeRuns
import LineScript.Proofs.Script.Acceptance
import LineScript.Proofs.Script.Accepted
import LineScript.Proofs.Script.Alone
import LineScript.Proofs.Script.BlockTree
import LineScript.Proofs.Script.Boundaries
import LineScript.Proofs.Script.Concatenation
import LineScript.Proofs.Script.Cuts
import LineScript.Proofs.Script.Embedded
import LineScript.Proofs.Script.Following
import LineScript.Proofs.Script.Functions
import LineScript.Proofs.Script.Loops
import LineScript.Proofs.Script.Lossless
import LineScript.Proofs.Script.Nesting
import LineScript.Proofs.Script.Outlines
import LineScript.Proofs.Script.Reading
import LineScript.Proofs.Script.Refusals
import LineScript.Proofs.Script.Statements
import LineScript.Proofs.Script.Tokens
import LineScript.Proofs.Script.Values
import LineScript.Proofs.Search.Expression
import LineScript.Proofs.Text.Bytes
import LineScript.Proofs.Text.Unbroken
import LineScript.Regex.CharSet
import LineScript.Regex.Escaped
import LineScript.Regex.Machine
import LineScript.Regex.Matcher
import LineScript.Regex.Reader
import LineScript.Regex.Syntax
import LineScript.Registry
import LineScript.Run.Config
import LineScript.Run.Engine
import LineScript.Run.Machine
import LineScript.Run.State
import LineScript.Run.Statement
import LineScript.Run.Trace
import LineScript.Run.Value
import LineScript.Script.Blocks
import LineScript.Script.Classes
import LineScript.Script.Program
import LineScript.Script.Statement
import LineScript.Script.Template
import LineScript.Script.Tree
import LineScript.Script.Value
import LineScript.Search.Expression
import LineScript.Text.Blank
import LineScript.Text.Bytes
import LineScript.Text.Pieces
import LineScript.Token.Escape
import LineScript.Token.RegexClass
import LineScript.Token.Scan
import LineScript.Token.Stream
import LineScript.Unicode.Case
import LineScript.Unicode.CaseRuns
import LineScript.Unicode.CategoryRuns
import LineScript.Unicode.Classes
import LineScript.Unicode.PropertyRanges
import LineScript.Unicode.ScriptRanges
import LineScript.World
import LineScript.Proofs.Buffer.CutAndPaste
import LineScript.Proofs.Buffer.Seeking
import LineScript.Proofs.Buffer.ForwardSearch
import LineScript.Proofs.Buffer.BackwardSearch
import LineScript.Proofs.Buffer.CountLimit
import LineScript.Proofs.Run.Unharmed
import LineScript.Proofs.Run.Failing
import LineScript.Proofs.Token.Quoted
import LineScript.Proofs.Script.Templates
import LineScript.Proofs.Script.Literals
import LineScript.Proofs.Regex.Language
import LineScript.Proofs.Regex.Matching
import LineScript.Proofs.Regex.Spans
import LineScript.Proofs.Script.References
import LineScript.Proofs.Script.PatternLiterals
import LineScript.Proofs.Script.Taken
import LineScript.Proofs.Script.Coverage
import LineScript.Proofs.Text.Trimming
import LineScript.Proofs.Script.Words
import LineScript.Proofs.Script.PlainText
import LineScript.Proofs.Script.Comments
import LineScript.Proofs.Run.Messages
import LineScript.Proofs.Regex.Reading
import LineScript.Proofs.Glob.Items
import LineScript.Proofs.Glob.Meaning
import LineScript.Proofs.Function.Positions
import LineScript.Proofs.Function.Pieces
import LineScript.Proofs.Glob.Brackets
import LineScript.Proofs.Search.Anchors
import LineScript.Proofs.Number.Order
import LineScript.Proofs.Function.Sorting
import LineScript.Proofs.Script.Openers
import LineScript.Proofs.Number.Rounding
import LineScript.Proofs.Function.NumericSorting
