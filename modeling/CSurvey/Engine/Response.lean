import CSurvey.Diagram.Render
import CSurvey.History
import CSurvey.Recommend
import CSurvey.Report
import CSurvey.Search.Basic

/-!
# Responses

What an engine answers, the line about it in the history, and the operations that
it suggests to run next.
-/

namespace CSurvey

structure ChunkResponse where
  source : SourceInfo
  maxChunkSize : Nat
  chunks : List Chunk

structure SearchResponse where
  /-- The pattern that was searched for. -/
  pattern : String
  /-- The first matches, as many as are shown at most. -/
  hits : List SearchMatch
  /-- The number of all matches. -/
  total : Nat
  truncated : Bool

structure DiagramResponse where
  diagram : Diagram
  mermaid : Option String
  dot : Option String

structure AuditResponse where
  source : SourceInfo
  findings : List Finding
  summary : RiskSummary

structure ReportResponse where
  report : Report
  markdown : String

structure RecommendResponse where
  recommendations : List Recommendation
  /-- The latest operations, oldest first. -/
  recent : List HistoryEntry

inductive Response where
  | chunk (response : ChunkResponse)
  | analyzeFunction (analysis : FunctionAnalysis)
  | analyzeDependencies (graph : CallGraph)
  | search (response : SearchResponse)
  | renderDiagram (response : DiagramResponse)
  | refactor (advice : Advice)
  | audit (response : AuditResponse)
  | report (response : ReportResponse)
  | recommend (response : RecommendResponse)

namespace ChunkResponse

def functionNames (response : ChunkResponse) : List String :=
  response.chunks.flatMap Chunk.functionNames

def summary (response : ChunkResponse) : String :=
  s!"{response.source.name}: {response.chunks.length} chunks, " ++
  s!"{response.functionNames.length} functions"

def nextSteps (response : ChunkResponse) : List NextStep :=
  let names := response.functionNames
  if names.isEmpty then
    [.plain "search" "No functions found; search the text directly"]
  else
    [.plain "analyze_dependencies"
      s!"Build the call graph of {names.length} functions from these chunks",
     .plain "search" "Locate functions or strings of interest",
     .plain "audit" "Scan the whole file for risky calls",
     (NextStep.plain "analyze_function" "Start with the first function").withTargets
      (names.take 1)]

end ChunkResponse

namespace FunctionAnalysis

/-- What is shown for a function that is not there. -/
def noName : String :=
  "<empty>"

def summary (analysis : FunctionAnalysis) : String :=
  let name := (analysis.record.map FunctionRecord.name).getD noName
  s!"{name}: {analysis.complexityLevel} complexity, {analysis.findings.length} findings"

def nextSteps (analysis : FunctionAnalysis) : List NextStep :=
  match analysis.record with
  | none => []
  | some record =>
    (if analysis.findings.isEmpty then []
     else
      [(NextStep.plain "audit"
          "Risky calls found; check the rest of the file for the same patterns").withTargets
        (analysis.findings.map Finding.matched)]) ++
    (if analysis.advice.isEmpty then []
     else
      [(NextStep.plain "refactor"
          s!"{analysis.advice.suggestions.length} refactoring suggestion(s)").withTargets
        [record.name]]) ++
    [(NextStep.plain "search" "Find the callers of this function").withTargets [record.name]]

end FunctionAnalysis

namespace CallGraph

def summary (graph : CallGraph) : String :=
  s!"{graph.stats.totalFunctions} functions, {graph.stats.totalEdges} edges, " ++
  s!"{graph.cycles.length} cycles"

def criticalSteps (names : List String) : List NextStep :=
  if names.isEmpty then []
  else [(NextStep.plain "analyze_function" "Most connected functions").withTargets names]

def nextSteps (graph : CallGraph) : List NextStep :=
  criticalSteps graph.criticalFunctions ++
  (if graph.cycles.isEmpty then []
   else
    [(NextStep.plain "refactor" s!"{graph.cycles.length} recursion cycle(s)").withTargets
      (graph.cycles.flatMap Cycle.members)]) ++
  [.plain "render_diagram" "Visualize the call graph",
   .plain "audit" "Check the graph's functions for risky calls"]

end CallGraph

namespace SearchResponse

def summary (response : SearchResponse) : String :=
  s!"`{response.pattern}`: {response.total} matches"

/-- The functions among the hits, as definitions or as calls. -/
def functionNames (response : SearchResponse) (definitions : Bool) : List String :=
  (response.hits.filter (fun hit =>
    hit.kind == .function && hit.isDefinition == definitions)).map SearchMatch.matchedText

def nextSteps (response : SearchResponse) : List NextStep :=
  if response.hits.isEmpty then []
  else
    let names := response.functionNames true ++ response.functionNames false
    let functions :=
      (NextStep.plain "analyze_function" "Functions matched by the search").withTargets names
    (if functions.targets.isEmpty then [] else [functions]) ++
    (if response.truncated then
      [.plain "search"
        s!"{response.hits.length} of {response.total} matches shown; narrow the pattern"]
     else []) ++
    [.plain "audit" "Check the matched code for risky calls"]

end SearchResponse

namespace DiagramResponse

def summary (response : DiagramResponse) : String :=
  let diagram := response.diagram
  s!"{diagram.kind.name}: {diagram.nodes.length} of {diagram.totalNodes} nodes" ++
  (if diagram.truncated then ", truncated" else "")

def nextSteps (response : DiagramResponse) : List NextStep :=
  let diagram := response.diagram
  (if diagram.truncated then
    [NextStep.plain "render_diagram"
      s!"{diagram.nodes.length} of {diagram.totalNodes} nodes shown; raise max_nodes"]
   else []) ++
  (if diagram.nodes.isEmpty then []
   else
    [(NextStep.plain "analyze_function" "Most connected nodes in the diagram").withTargets
      (diagram.nodes.map DiagramNode.label)])

end DiagramResponse

namespace Advice

def summary (advice : Advice) : String :=
  s!"{advice.function}: {advice.suggestions.length} suggestions"

def nextSteps (advice : Advice) : List NextStep :=
  if advice.isEmpty then []
  else
    [(NextStep.plain "analyze_function"
        "Re-check metrics after applying the suggestions").withTargets
      [advice.function]]

end Advice

namespace AuditResponse

def line (response : AuditResponse) : String :=
  s!"{response.source.name}: {response.summary.total} findings, " ++
  s!"security score {response.summary.securityScore}"

def nextSteps (response : AuditResponse) : List NextStep :=
  if response.findings.isEmpty then
    [.plain "report" "No findings; summarize the file"]
  else
    [(NextStep.plain "refactor" (s!"{response.summary.total} finding(s), " ++
        s!"security score {response.summary.securityScore}")).withTargets
      (response.findings.filterMap Finding.function),
     (NextStep.plain "search" "Find other uses of the flagged calls").withTargets
      (response.findings.map Finding.matched),
     .plain "report" "Summarize the findings"]

end AuditResponse

namespace ReportResponse

def summary (response : ReportResponse) : String :=
  s!"{response.report.summary.file}: {response.report.sections.length} sections"

def nextSteps (response : ReportResponse) : List NextStep :=
  let summary := response.report.summary
  (if summary.severeFindings = 0 then []
   else [NextStep.plain "audit" s!"{summary.severeFindings} high or critical finding(s)"]) ++
  CallGraph.criticalSteps summary.criticalFunctions

end ReportResponse

namespace RecommendResponse

def summary (response : RecommendResponse) : String :=
  "top: " ++ ((response.recommendations.head?.map Recommendation.operation).getD "none")

end RecommendResponse

namespace Response

/-- The line about a response in the history. -/
def summary : Response → String
  | chunk response => response.summary
  | analyzeFunction analysis => analysis.summary
  | analyzeDependencies graph => graph.summary
  | search response => response.summary
  | renderDiagram response => response.summary
  | refactor advice => advice.summary
  | audit response => response.line
  | report response => response.summary
  | recommend response => response.summary

/-- The operations that a response suggests to run next. -/
def nextSteps : Response → List NextStep
  | chunk response => response.nextSteps
  | analyzeFunction analysis => analysis.nextSteps
  | analyzeDependencies graph => graph.nextSteps
  | search response => response.nextSteps
  | renderDiagram response => response.nextSteps
  | refactor advice => advice.nextSteps
  | audit response => response.nextSteps
  | report response => response.nextSteps
  | recommend _ => []

end Response

end CSurvey
