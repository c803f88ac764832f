import CSurvey.Engine.Request
import CSurvey.Engine.Response
import CSurvey.Wire.Diagram
import CSurvey.Wire.Report

/-!
# Requests and responses as JSON

A request that names a source has to be an object; the fields of the source stand
beside its own.
-/

namespace CSurvey

/-- The source that an object's fields name. -/
def SourceInput.ofJson? (value : Json) : Option SourceInput := do
  let [path, text] ← value.slots? ["path", "text"] | none
  return ⟨← path.optional Json.str?, ← text.optional Json.str?⟩

/-- The source that stands beside other fields. -/
def SourceInput.ofFields? (value : Json) : Option SourceInput := do
  let [path, text] ← value.objectSlots? ["path", "text"] | none
  return ⟨← path.optional Json.str?, ← text.optional Json.str?⟩

def ChunkRequest.ofJson? (value : Json) : Option ChunkRequest := do
  let [size] ← value.objectSlots? ["max_chunk_size"] | none
  return ⟨← SourceInput.ofFields? value, ← size.optional Json.nat?⟩

def FunctionRequest.ofJson? (value : Json) : Option FunctionRequest := do
  let [text, name] ← value.slots? ["function_text", "function_name"] | none
  return ⟨← text.required Json.str?, ← name.optional Json.str?⟩

def DependencyRequest.ofJson? (value : Json) : Option DependencyRequest := do
  let [functions, chunks] ← value.objectSlots? ["functions", "chunks"] | none
  return {
    functions := ← functions.optional (Json.list? FunctionRecord.ofJson?)
    chunks := ← chunks.optional (Json.list? Chunk.ofJson?)
    source := ← SourceInput.ofFields? value }

def SearchRequest.ofJson? (value : Json) : Option SearchRequest := do
  let [pattern, kind, literal] ←
    value.objectSlots? ["pattern", "search_type", "literal"] | none
  return {
    source := ← SourceInput.ofFields? value
    pattern := ← pattern.required Json.str?
    kind := ← kind.optional Json.str?
    literal := ← literal.withDefault false Json.bool? }

/-- What a diagram is drawn of: a call graph, or else nodes and edges, or else a mapping from names
to names; the first that the value can be read as. -/
def GraphInput.ofSource? (value : Json) : Option GraphInput :=
  match CallGraph.ofJson? value with
  | some graph => some (GraphInput.ofCallGraph graph)
  | none => GraphInput.ofJson? value <|> (adjacencyOfJson? value).map GraphInput.ofAdjacency

def DiagramRequest.ofJson? (value : Json) : Option DiagramRequest := do
  let [graph, kind, maxNodes, mermaid, dot] ←
    value.slots? ["graph", "chart_kind", "max_nodes", "mermaid", "dot"] | none
  return {
    graph := ← graph.required GraphInput.ofSource?
    chartKind := ← kind.optional Json.str?
    maxNodes := ← maxNodes.optional Json.nat?
    mermaid := ← mermaid.withDefault false Json.bool?
    dot := ← dot.withDefault false Json.bool? }

def ReportRequest.ofJson? (value : Json) : Option ReportRequest := do
  let [analysis] ← value.objectSlots? ["analysis"] | none
  return ⟨← SourceInput.ofFields? value, ← analysis.optional FileAnalysis.ofJson?⟩

/-- The question that a recommendation is asked for with. -/
def questionOfJson? (value : Json) : Option String := do
  let [context] ← value.slots? ["context"] | none
  context.withDefault "" Json.str?

/-- The request for an operation that parameters describe. -/
def Request.ofJson? (operation : Operation) (value : Json) : Option Request :=
  match operation with
  | .chunk => (ChunkRequest.ofJson? value).map .chunk
  | .analyzeFunction => (FunctionRequest.ofJson? value).map .analyzeFunction
  | .analyzeDependencies => (DependencyRequest.ofJson? value).map .analyzeDependencies
  | .search => (SearchRequest.ofJson? value).map .search
  | .renderDiagram => (DiagramRequest.ofJson? value).map .renderDiagram
  | .refactor => (FunctionRequest.ofJson? value).map .refactor
  | .audit => (SourceInput.ofFields? value).map .audit
  | .report => (ReportRequest.ofJson? value).map .report
  | .recommend => (questionOfJson? value).map .recommend

def NextStep.toJson (step : NextStep) : Json :=
  .obj ([("operation", .str step.operation), ("reason", .str step.reason)] ++
    (if step.targets.isEmpty then [] else [("targets", .strings step.targets)]))

def Recommendation.toJson (entry : Recommendation) : Json :=
  .obj [("operation", .str entry.operation), ("description", .str entry.description),
    ("score", .nat entry.score), ("matched", .strings entry.matched)]

def HistoryEntry.toJson (entry : HistoryEntry) : Json :=
  .obj [("timestamp", .str entry.timestamp), ("operation", .str entry.operation),
    ("summary", .str entry.summary)]

def ChunkResponse.toJson (response : ChunkResponse) : Json :=
  .obj [("source", response.source.toJson), ("max_chunk_size", .nat response.maxChunkSize),
    ("chunks", .list Chunk.toJson response.chunks)]

def SearchResponse.toJson (response : SearchResponse) : Json :=
  .obj [("matches", .list SearchMatch.toJson response.hits), ("total", .nat response.total),
    ("truncated", .bool response.truncated)]

/-- A field that is left out when there is no value. -/
def optionalField (name : String) : Option String → List (String × Json)
  | none => []
  | some text => [(name, .str text)]

def DiagramResponse.toJson (response : DiagramResponse) : Json :=
  .obj ([("spec", response.diagram.toJson)] ++ optionalField "mermaid" response.mermaid ++
    optionalField "dot" response.dot)

def AuditResponse.toJson (response : AuditResponse) : Json :=
  .obj [("source", response.source.toJson),
    ("findings", .list Finding.toJson response.findings), ("summary", response.summary.toJson)]

def ReportResponse.toJson (response : ReportResponse) : Json :=
  .obj [("report", response.report.toJson), ("markdown", .str response.markdown)]

def RecommendResponse.toJson (response : RecommendResponse) : Json :=
  .obj [("recommendations", .list Recommendation.toJson response.recommendations),
    ("recent", .list HistoryEntry.toJson response.recent)]

namespace Response

def toJson : Response → Json
  | chunk response => response.toJson
  | analyzeFunction analysis => analysis.toJson
  | analyzeDependencies graph => graph.toJson
  | search response => response.toJson
  | renderDiagram response => response.toJson
  | refactor advice => advice.toJson
  | audit response => response.toJson
  | report response => response.toJson
  | recommend response => response.toJson

/-- A response together with the operations that it suggests to run next. -/
def answer (response : Response) : Json :=
  match response.toJson with
  | .obj fields => .obj (fields ++ [("next_steps", .list NextStep.toJson response.nextSteps)])
  | value => value

end Response

end CSurvey
