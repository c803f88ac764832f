import CSurvey.CallGraph.Build
import CSurvey.Diagram.Text
import CSurvey.Engine.Request
import CSurvey.Engine.Response
import CSurvey.Json.Value
import CSurvey.Settings

/-!
# Engine

An engine holds valid settings and runs requests.  Every request that is
performed leaves one entry in the history, whether it succeeds or not, unless an
addition of counts fails.
-/

namespace CSurvey

/-- What an engine takes from libraries. -/
structure Libraries where
  compile : PatternCompiler
  /-- Why parameters cannot be read as those of an operation. -/
  reason : Operation → Json → String

/-- Valid settings with what follows from them. -/
structure Engine where
  libraries : Libraries
  settings : Settings
  analyzer : Analyzer
  chartKind : ChartKind

namespace Engine

/-- The engine with given settings, if they are valid. -/
def ofSettings (libraries : Libraries) (settings : Settings) : Except Fault Engine := do
  settings.validate
  return { libraries, settings, analyzer := ← settings.analyzer, chartKind := ← settings.chartKind }

/-- The history of an engine that has done nothing. -/
def freshHistory (engine : Engine) : History :=
  History.empty engine.settings.analysis.historyCapacity

/-- The number of entries that go with recommendations. -/
def recentEntries : Nat :=
  5

/-- The chunk size to use when one is asked for, which may not be zero, or none is. -/
def chunkLimit (engine : Engine) : Option Nat → Except Fault Nat
  | some 0 => .error (.argument .zeroChunkSize)
  | some limit => .ok limit
  | none => .ok engine.analyzer.maxChunkSize

def chunk (engine : Engine) (disk : Disk) (request : ChunkRequest) :
    Except Fault ChunkResponse := do
  let limit ← engine.chunkLimit request.maxChunkSize
  let source ← request.source.load disk
  return ⟨source.info, limit, ← chunkSource source (scan source.text) limit⟩

def analyzeFunction (engine : Engine) (request : FunctionRequest) : FunctionAnalysis :=
  engine.analyzer.analyzeFunction request.text request.name

def analyzeDependencies (engine : Engine) (disk : Disk) (request : DependencyRequest) :
    Except Fault CallGraph :=
  match request.functions, request.chunks with
  | some records, _ => (CallGraph.build records).checked
  | none, some chunks => (CallGraph.ofChunks chunks).checked
  | none, none => do
    let source ← request.source.load disk
    (CallGraph.ofChunks
      (← chunkSource source (scan source.text) engine.analyzer.maxChunkSize)).checked

def search (engine : Engine) (disk : Disk) (request : SearchRequest) :
    Except Fault SearchResponse := do
  let kind ← match request.kind with
    | some word => SearchKind.parse word
    | none => pure .any
  let query : SearchQuery := ⟨request.pattern, kind, request.literal⟩
  let matcher ← query.matcher engine.libraries.compile
  let source ← request.source.load disk
  let hits := (Search.Field.ofSource source).run matcher kind
  let shown := engine.settings.analysis.maxSearchResults
  return ⟨request.pattern, hits.take shown, hits.length, shown < hits.length⟩

def renderDiagram (engine : Engine) (request : DiagramRequest) :
    Except Fault DiagramResponse := do
  let kind ← match request.chartKind with
    | some word => ChartKind.parse word
    | none => pure engine.chartKind
  let maxNodes := request.maxNodes.getD engine.settings.analysis.maxNodes
  let diagram ← Diagram.render request.graph kind maxNodes
  return {
    diagram
    mermaid := if request.mermaid then some diagram.mermaid else none
    dot := if request.dot then some diagram.dot else none }

def analyze (engine : Engine) (disk : Disk) (input : SourceInput) :
    Except Fault FileAnalysis := do
  engine.analyzer.analyze (← input.load disk)

def audit (engine : Engine) (disk : Disk) (input : SourceInput) :
    Except Fault AuditResponse := do
  let analysis ← engine.analyze disk input
  return ⟨analysis.source, analysis.findings, RiskSummary.ofFindings analysis.findings⟩

def report (engine : Engine) (disk : Disk) (request : ReportRequest) :
    Except Fault ReportResponse := do
  let analysis ← match request.analysis with
    | some analysis => pure analysis
    | none => engine.analyze disk request.source
  let report := Report.ofAnalysis analysis
  return ⟨report, report.markdown⟩

/-- The operations that fit a question, with what the history says has been done lately. -/
def recommend (history : History) (question : String) : RecommendResponse :=
  ⟨CSurvey.recommend question, history.recent recentEntries⟩

/-- Run a request without leaving a trace in the history. -/
def run (engine : Engine) (disk : Disk) (history : History) : Request → Except Fault Response
  | .chunk request => (engine.chunk disk request).map .chunk
  | .analyzeFunction request => .ok (.analyzeFunction (engine.analyzeFunction request))
  | .analyzeDependencies request =>
    (engine.analyzeDependencies disk request).map .analyzeDependencies
  | .search request => (engine.search disk request).map .search
  | .renderDiagram request => (engine.renderDiagram request).map .renderDiagram
  | .refactor request => .ok (.refactor (engine.analyzeFunction request).advice)
  | .audit input => (engine.audit disk input).map .audit
  | .report request => (engine.report disk request).map .report
  | .recommend question => .ok (.recommend (recommend history question))

/-- The line about a failure in the history. -/
def failureLine (fault : Fault) : String :=
  s!"failed: {fault.message}"

/-- The line about an outcome in the history. -/
def outcomeLine : Except Fault Response → String
  | .ok response => response.summary
  | .error fault => failureLine fault

/-- Run a request and record what came of it, unless an addition fails. -/
def perform (engine : Engine) (disk : Disk) (history : History) (time : String)
    (request : Request) : Except Fault Response × History :=
  match engine.run disk history request with
  | .error .overflow => (.error .overflow, history)
  | outcome => (outcome, history.record time request.operation.name (outcomeLine outcome))

end Engine

end CSurvey
