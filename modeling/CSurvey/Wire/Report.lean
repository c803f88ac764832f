import CSurvey.Report
import CSurvey.Search.Basic
import CSurvey.Wire.Advice
import CSurvey.Wire.Graph

/-!
# Analyses, reports and searches as JSON
-/

namespace CSurvey

def FileAnalysis.toJson (analysis : FileAnalysis) : Json :=
  .obj [("source", analysis.source.toJson), ("max_chunk_size", .nat analysis.maxChunkSize),
    ("chunks", .list Chunk.toJson analysis.chunks), ("graph", analysis.graph.toJson),
    ("findings", .list Finding.toJson analysis.findings),
    ("advice", .list Advice.toJson analysis.advice)]

def FileAnalysis.ofJson? (value : Json) : Option FileAnalysis := do
  let [source, maxChunkSize, chunks, graph, findings, advice] ←
    value.slots? ["source", "max_chunk_size", "chunks", "graph", "findings", "advice"] | none
  return {
    source := ← source.required SourceInfo.ofJson?
    maxChunkSize := ← maxChunkSize.required Json.nat?
    chunks := ← chunks.required (Json.list? Chunk.ofJson?)
    graph := ← graph.required CallGraph.ofJson?
    findings := ← findings.required (Json.list? Finding.ofJson?)
    advice := ← advice.required (Json.list? Advice.ofJson?) }

def FunctionAnalysis.toJson (analysis : FunctionAnalysis) : Json :=
  .obj [("record", .ofOption FunctionRecord.toJson analysis.record),
    ("findings", .list Finding.toJson analysis.findings),
    ("signals", analysis.signals.toJson), ("purpose_hints", .strings analysis.purposeHints),
    ("error_handling", .strings analysis.errorHandling),
    ("complexity_level", .str analysis.complexityLevel),
    ("risk_level", .ofOption Severity.toJson analysis.riskLevel),
    ("advice", analysis.advice.toJson)]

def SectionSource.name : SectionSource → String
  | summary => "summary"
  | chunker => "chunker"
  | functionExtractor => "function_extractor"
  | callGraph => "call_graph"
  | riskScorer => "risk_scorer"
  | advisor => "advisor"

def ReportSection.toJson (part : ReportSection) : Json :=
  .obj [("source", .str part.source.name), ("title", .str part.title), ("body", .str part.body)]

def ReportSummary.toJson (summary : ReportSummary) : Json :=
  .obj [("file", .str summary.file), ("total_lines", .nat summary.totalLines),
    ("chunk_count", .nat summary.chunkCount), ("function_count", .nat summary.functionCount),
    ("severe_findings", .nat summary.severeFindings), ("cycle_count", .nat summary.cycleCount),
    ("critical_functions", .strings summary.criticalFunctions)]

def Report.toJson (report : Report) : Json :=
  .obj [("summary", report.summary.toJson), ("risk", report.risk.toJson),
    ("sections", .list ReportSection.toJson report.sections)]

def SearchKind.ofJson? (value : Json) : Option SearchKind := do
  SearchKind.ofName? (← value.caseName?)

def SearchQuery.ofJson? (value : Json) : Option SearchQuery := do
  let [pattern, kind, literal] ← value.slots? ["pattern", "search_type", "literal"] | none
  return {
    pattern := ← pattern.required Json.str?
    kind := ← kind.withDefault .any SearchKind.ofJson?
    literal := ← literal.withDefault false Json.bool? }

def SearchMatch.toJson (hit : SearchMatch) : Json :=
  .obj [("span", hit.span.toJson), ("matched_text", .str hit.matchedText),
    ("kind", .str hit.kind.name), ("is_definition", .bool hit.isDefinition),
    ("context", .str hit.context)]

end CSurvey
