import CSurvey.Advice.Basic
import CSurvey.Advice.Rule
import CSurvey.Analysis
import CSurvey.Batch
import CSurvey.Call
import CSurvey.CallGraph.Basic
import CSurvey.CallGraph.Build
import CSurvey.Chunk
import CSurvey.CommandLine.Argument
import CSurvey.CommandLine.Invocation
import CSurvey.CommandLine.Run
import CSurvey.CommandLine.Text
import CSurvey.Decimal.Shortest
import CSurvey.Definition
import CSurvey.Diagram.Basic
import CSurvey.Diagram.Render
import CSurvey.Diagram.Text
import CSurvey.Editor.Diagnostic
import CSurvey.Editor.Session
import CSurvey.Engine.Basic
import CSurvey.Engine.Dispatch
import CSurvey.Engine.Request
import CSurvey.Engine.Response
import CSurvey.Fault
import CSurvey.Files.Disk
import CSurvey.Files.Tree
import CSurvey.FunctionRecord
import CSurvey.History
import CSurvey.Json.Decode
import CSurvey.Json.Printer
import CSurvey.Json.Reader
import CSurvey.Json.Value
import CSurvey.LineIndex
import CSurvey.Main
import CSurvey.Metrics
import CSurvey.NameHints
import CSurvey.Pattern.CharSet
import CSurvey.Pattern.Parse
import CSurvey.Pattern.Program
import CSurvey.Pattern.Property
import CSurvey.Pattern.Property.Category
import CSurvey.Pattern.Property.Folding
import CSurvey.Pattern.Property.Script
import CSurvey.Pattern.Regex
import CSurvey.Proofs.Advice.Firing
import CSurvey.Proofs.Advice.Suggestions
import CSurvey.Proofs.Analysis.Attribution
import CSurvey.Proofs.Analysis.Calls
import CSurvey.Proofs.Analysis.ChunkSize
import CSurvey.Proofs.Analysis.Comment
import CSurvey.Proofs.Analysis.Keys
import CSurvey.Proofs.Analysis.Lookup
import CSurvey.Proofs.Analysis.Outside
import CSurvey.Proofs.Analysis.Records
import CSurvey.Proofs.Analysis.Scope
import CSurvey.Proofs.Analysis.Snippet
import CSurvey.Proofs.Analysis.Words
import CSurvey.Proofs.CallGraph.Accounts
import CSurvey.Proofs.CallGraph.Cycles
import CSurvey.Proofs.CallGraph.Edges
import CSurvey.Proofs.CallGraph.Forget
import CSurvey.Proofs.CallGraph.Groups
import CSurvey.Proofs.CallGraph.Levels
import CSurvey.Proofs.CallGraph.Lookup
import CSurvey.Proofs.CallGraph.Order
import CSurvey.Proofs.CallGraph.Paths
import CSurvey.Proofs.CallGraph.Words
import CSurvey.Proofs.Checked.Allocation
import CSurvey.Proofs.Checked.Analysis
import CSurvey.Proofs.Checked.Basic
import CSurvey.Proofs.Checked.Body
import CSurvey.Proofs.Checked.Brackets
import CSurvey.Proofs.Checked.Call
import CSurvey.Proofs.Checked.Conversion
import CSurvey.Proofs.Checked.Definition
import CSurvey.Proofs.Checked.Lexeme
import CSurvey.Proofs.Checked.Plan
import CSurvey.Proofs.Checked.Risk
import CSurvey.Proofs.Checked.Scan
import CSurvey.Proofs.Chunk.Alone
import CSurvey.Proofs.Chunk.Bounds
import CSurvey.Proofs.Chunk.Cuts
import CSurvey.Proofs.Chunk.Functions
import CSurvey.Proofs.Chunk.Greedy
import CSurvey.Proofs.Chunk.Headers
import CSurvey.Proofs.Chunk.OpenEnd
import CSurvey.Proofs.Chunk.Tiling
import CSurvey.Proofs.CommandLine.Reading
import CSurvey.Proofs.Definition.Excerpt
import CSurvey.Proofs.Definition.Moved
import CSurvey.Proofs.Definition.Parts
import CSurvey.Proofs.Definition.Recognition
import CSurvey.Proofs.Definition.Sites
import CSurvey.Proofs.Definition.Snippet
import CSurvey.Proofs.Definition.Tiling
import CSurvey.Proofs.Diagram.Accounts
import CSurvey.Proofs.Diagram.Aggregate
import CSurvey.Proofs.Diagram.Degrees
import CSurvey.Proofs.Diagram.Identifiers
import CSurvey.Proofs.Diagram.Levels
import CSurvey.Proofs.Diagram.Names
import CSurvey.Proofs.Diagram.Pairs
import CSurvey.Proofs.Diagram.Reader
import CSurvey.Proofs.Diagram.Text
import CSurvey.Proofs.Distinct
import CSurvey.Proofs.Editor.Positions
import CSurvey.Proofs.Editor.Schedule
import CSurvey.Proofs.Editor.Sequence
import CSurvey.Proofs.Editor.Session
import CSurvey.Proofs.Editor.Settling
import CSurvey.Proofs.Engine.Drawing
import CSurvey.Proofs.Engine.Feedback
import CSurvey.Proofs.Engine.FollowUp
import CSurvey.Proofs.Engine.Overflow
import CSurvey.Proofs.Engine.Record
import CSurvey.Proofs.Files.Gathering
import CSurvey.Proofs.Json.Decode
import CSurvey.Proofs.Metrics.Counts
import CSurvey.Proofs.Metrics.Grammar
import CSurvey.Proofs.Metrics.Levels
import CSurvey.Proofs.Metrics.Loops
import CSurvey.Proofs.Metrics.Structure
import CSurvey.Proofs.Pattern.Matches
import CSurvey.Proofs.Risk.Arguments
import CSurvey.Proofs.Risk.Closing
import CSurvey.Proofs.Risk.Extent
import CSurvey.Proofs.Risk.IndexedWrite
import CSurvey.Proofs.Risk.Moved
import CSurvey.Proofs.Risk.Overrides
import CSurvey.Proofs.Risk.ScanFormat
import CSurvey.Proofs.Search.Definitions
import CSurvey.Proofs.Search.Hits
import CSurvey.Proofs.Search.Names
import CSurvey.Proofs.Search.Occurrences
import CSurvey.Proofs.Sorted
import CSurvey.Proofs.Sum
import CSurvey.Proofs.Tally
import CSurvey.Proofs.Text.Cut
import CSurvey.Proofs.Text.Lines
import CSurvey.Proofs.Text.Returns
import CSurvey.Proofs.Text.Utf8
import CSurvey.Proofs.Token.CarriageReturn
import CSurvey.Proofs.Token.Layout
import CSurvey.Proofs.Token.LineEnd
import CSurvey.Proofs.Token.LineLookup
import CSurvey.Proofs.Token.Lines
import CSurvey.Proofs.Token.Lookahead
import CSurvey.Proofs.Token.Matching
import CSurvey.Proofs.Token.Moved
import CSurvey.Proofs.Token.Nesting
import CSurvey.Proofs.Token.Place
import CSurvey.Proofs.Token.Respelled
import CSurvey.Proofs.Token.Restart
import CSurvey.Proofs.Token.Run
import CSurvey.Proofs.Token.Words
import CSurvey.Proofs.Walk.Distance
import CSurvey.Proofs.Walk.Queue
import CSurvey.Proofs.Walk.Reach
import CSurvey.Proofs.Wire.Mapping
import CSurvey.Proofs.Wire.RoundTrip
import CSurvey.Recommend
import CSurvey.Report
import CSurvey.Risk.Catalog
import CSurvey.Risk.Conversion
import CSurvey.Risk.Match
import CSurvey.Risk.Rule
import CSurvey.Risk.Summary
import CSurvey.Risk.Table
import CSurvey.Search.Basic
import CSurvey.Search.Query
import CSurvey.Settings
import CSurvey.SettingsFile
import CSurvey.Signals
import CSurvey.Sorted
import CSurvey.Source
import CSurvey.Span
import CSurvey.Sum
import CSurvey.Tally
import CSurvey.Text.Blank
import CSurvey.Text.Bytes
import CSurvey.Text.Digest
import CSurvey.Text.Search
import CSurvey.Text.Utf8
import CSurvey.Token.Basic
import CSurvey.Token.Place
import CSurvey.Token.Scan
import CSurvey.Toml.Number
import CSurvey.Toml.Reader
import CSurvey.Toml.Text
import CSurvey.Toml.Value
import CSurvey.Walk
import CSurvey.Wire.Advice
import CSurvey.Wire.Diagram
import CSurvey.Wire.Editor
import CSurvey.Wire.Function
import CSurvey.Wire.Graph
import CSurvey.Wire.Operation
import CSurvey.Wire.Report
import CSurvey.Wire.Settings
