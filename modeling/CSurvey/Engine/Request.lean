import CSurvey.Analysis
import CSurvey.Diagram.Basic
import CSurvey.Fault
import CSurvey.Files.Disk
import CSurvey.Text.Search

/-!
# Requests

What an engine can be asked for: the operations, the words by which they can be
called, and what each of them is told.
-/

namespace CSurvey

inductive Operation where
  | chunk
  | analyzeFunction
  | analyzeDependencies
  | search
  | renderDiagram
  | refactor
  | audit
  | report
  | recommend
deriving DecidableEq, Repr, Inhabited

namespace Operation

def all : List Operation :=
  [chunk, analyzeFunction, analyzeDependencies, search, renderDiagram, refactor, audit, report,
   recommend]

def name : Operation → String
  | chunk => "chunk"
  | analyzeFunction => "analyze_function"
  | analyzeDependencies => "analyze_dependencies"
  | search => "search"
  | renderDiagram => "render_diagram"
  | refactor => "refactor"
  | audit => "audit"
  | report => "report"
  | recommend => "recommend"

/-- Other words for an operation. -/
def aliases : Operation → List String
  | chunk => ["chunk_code", "split"]
  | analyzeFunction => ["function", "analyze"]
  | analyzeDependencies => ["dependencies", "deps", "call_graph"]
  | search => ["search_code"]
  | renderDiagram => ["diagram", "generate_diagram", "visualize"]
  | refactor => ["refactor_suggestions", "suggest_refactor"]
  | audit => ["security_audit"]
  | report => ["generate_report"]
  | recommend => ["smart_assistant"]

/-- A word with its letters in lower case and its dashes as underscores. -/
def normalize (word : String) : String :=
  String.ofList ((Text.lower word).toList.map (fun c => if c = '-' then '_' else c))

def parse (word : String) : Except Fault Operation :=
  let plain := normalize word
  match all.find? (fun operation => (operation.name :: operation.aliases).contains plain) with
  | some operation => .ok operation
  | none => .error (.argument (.unknownOperation plain))

end Operation

/-- Where an operation reads its source from.  A text comes before a path, which then only names
it. -/
structure SourceInput where
  path : Option String
  text : Option String
deriving DecidableEq, Repr, Inhabited

namespace SourceInput

/-- The file at a path. -/
def ofPath (path : String) : SourceInput :=
  ⟨some path, none⟩

/-- The source that is meant. -/
def load (input : SourceInput) (disk : Disk) : Except Fault Source :=
  match input.text, input.path with
  | some text, path => .ok ⟨path.getD Source.memoryName, text⟩
  | none, some path => disk.load path
  | none, none => .error (.argument .noSource)

end SourceInput

structure ChunkRequest where
  source : SourceInput
  maxChunkSize : Option Nat

/-- One function to look at, the one of a given name if the text has several. -/
structure FunctionRequest where
  text : String
  name : Option String

/-- What to build a call graph from: records, or else chunks, or else a source. -/
structure DependencyRequest where
  functions : Option (List FunctionRecord)
  chunks : Option (List Chunk)
  source : SourceInput

structure SearchRequest where
  source : SourceInput
  pattern : String
  /-- A word for what to look at. -/
  kind : Option String
  literal : Bool

structure DiagramRequest where
  graph : GraphInput
  /-- A word for the kind of chart. -/
  chartKind : Option String
  maxNodes : Option Nat
  mermaid : Bool
  dot : Bool

/-- What to report on: a given analysis, or else a source. -/
structure ReportRequest where
  source : SourceInput
  analysis : Option FileAnalysis

inductive Request where
  | chunk (request : ChunkRequest)
  | analyzeFunction (request : FunctionRequest)
  | analyzeDependencies (request : DependencyRequest)
  | search (request : SearchRequest)
  | renderDiagram (request : DiagramRequest)
  | refactor (request : FunctionRequest)
  | audit (source : SourceInput)
  | report (request : ReportRequest)
  | recommend (question : String)

def Request.operation : Request → Operation
  | chunk _ => .chunk
  | analyzeFunction _ => .analyzeFunction
  | analyzeDependencies _ => .analyzeDependencies
  | search _ => .search
  | renderDiagram _ => .renderDiagram
  | refactor _ => .refactor
  | audit _ => .audit
  | report _ => .report
  | recommend _ => .recommend

end CSurvey
