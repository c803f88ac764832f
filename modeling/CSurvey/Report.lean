import CSurvey.Analysis
import CSurvey.Decimal.Shortest

/-!
# Reports

A report arranges what an analysis found in six sections, and nothing of its own.
Each section names the part of the analysis that its content comes from.
-/

namespace CSurvey

/-- The part of an analysis that a section comes from. -/
inductive SectionSource where
  | summary
  | chunker
  | functionExtractor
  | callGraph
  | riskScorer
  | advisor
deriving DecidableEq, Repr

structure ReportSection where
  source : SectionSource
  title : String
  body : String
deriving DecidableEq, Repr

structure ReportSummary where
  file : String
  totalLines : Nat
  chunkCount : Nat
  functionCount : Nat
  severeFindings : Nat
  cycleCount : Nat
  criticalFunctions : List String
deriving DecidableEq, Repr

structure Report where
  summary : ReportSummary
  risk : RiskSummary
  sections : List ReportSection

namespace Report

/-- Lines of text, each ended by a line feed. -/
def lines (parts : List String) : String :=
  String.join (parts.map (· ++ "\n"))

/-- Names as code, with commas between them. -/
def codeList (names : List String) : String :=
  ", ".intercalate (names.map (fun name => s!"`{name}`"))

/-- A row of a table. -/
def row (cells : List String) : String :=
  "| " ++ " | ".intercalate cells ++ " |"

/-- The line under the heading of a table. -/
def rule (columns : Nat) : String :=
  "|" ++ String.join (List.replicate columns "---|")

def summaryBody (summary : ReportSummary) (risk : RiskSummary) : String :=
  lines
    [s!"- File: `{summary.file}` ({summary.totalLines} lines)",
     s!"- Chunks: {summary.chunkCount}",
     s!"- Functions: {summary.functionCount}",
     s!"- High/critical findings: {summary.severeFindings}",
     s!"- Call cycles: {summary.cycleCount}",
     s!"- Security score: {risk.securityScore}/100 (risk level: {risk.riskLevel})",
     "- Critical functions: " ++
       (if summary.criticalFunctions.isEmpty then "none" else codeList summary.criticalFunctions)]

def chunkRow (chunk : Chunk) : String :=
  let notes := (if chunk.oversized then ["oversized"] else []) ++
    (if chunk.incomplete then ["incomplete"] else [])
  row [chunk.label, s!"{chunk.startLine}-{chunk.endLine}", toString chunk.functions.length,
    ", ".intercalate notes]

def chunksBody (analysis : FileAnalysis) : String :=
  if analysis.chunks.isEmpty then lines ["Empty input, no chunks."]
  else
    lines ([s!"Chunk size limit: {analysis.maxChunkSize} lines.", "",
        row ["chunk", "lines", "functions", "notes"], rule 4] ++
      analysis.chunks.map chunkRow)

def functionRow (record : FunctionRecord) : String :=
  let metrics := record.metrics
  row [s!"`{record.key}`" ++ (if record.incomplete then " (incomplete)" else ""),
    toString record.span.line, toString metrics.parameterCount, toString metrics.lineCount,
    toString metrics.branchCount, toString metrics.loopCount, toString metrics.maxNestingDepth,
    toString metrics.cyclomatic, toString metrics.callCount]

def functionsBody (analysis : FileAnalysis) : String :=
  if analysis.functions.isEmpty then lines ["No function definitions recognized."]
  else
    lines ([row ["function", "line", "params", "lines", "branches", "loops", "nesting",
        "cyclomatic", "calls"], rule 9] ++
      analysis.functions.map functionRow)

def nodeRow (node : GraphNode) : String :=
  row [s!"`{node.name}`", toString node.fanIn, toString node.fanOut,
    Decimal.onePlace node.importance, node.moduleGroup]

/-- The number of functions listed by importance. -/
def listedFunctions : Nat :=
  10

def graphBody (graph : CallGraph) : String :=
  let stats := graph.stats
  let ranked := CallGraph.byImportance graph.nodes
  lines
    [s!"- Edges: {stats.totalEdges} ({stats.totalCalls} call sites)",
     s!"- External calls: {stats.externalCalls} to {stats.distinctExternalNames} distinct names",
     s!"- Max fan-in: {stats.maxFanIn}, max fan-out: {stats.maxFanOut}",
     s!"- Max call depth: {stats.maxCallDepth}",
     s!"- Recursive functions (self or cycle): {stats.recursiveFunctions}",
     s!"- Components: {graph.components.length}"] ++
  (if graph.cycles.isEmpty then ""
   else
    lines (["", "Cycles:", ""] ++
      graph.cycles.map (fun cycle => "- " ++ codeList cycle.members)))
  ++
  (if ranked.isEmpty then ""
   else
    lines (["", row ["function", "fan-in", "fan-out", "importance", "group"], rule 5] ++
      (ranked.take listedFunctions).map nodeRow))

def findingLine (finding : Finding) : String :=
  let scope := finding.function.getD "top level"
  s!"- **{finding.severity.name}** `{finding.patternId}` in `{scope}` " ++
  s!"(line {finding.span.line}): `{finding.matched}`. " ++
  s!"{finding.rationale}. Fix: {finding.remedy}."

def risksBody (findings : List Finding) (risk : RiskSummary) : String :=
  if findings.isEmpty then lines ["No risk patterns matched. Security score: 100/100."]
  else
    lines ([s!"Security score: {risk.securityScore}/100, risk level: {risk.riskLevel}.", "",
        "By severity: " ++ ", ".intercalate (risk.bySeverity.reverse.map (fun entry =>
          s!"{entry.2} {entry.1.name}")),
        "By category: " ++ ", ".intercalate (risk.byCategory.entries.map (fun entry =>
          s!"{entry.2} {entry.1}")), ""] ++
      findings.map findingLine)

def suggestionLine (suggestion : Suggestion) : String :=
  let triggers := "; ".intercalate suggestion.triggers
  s!"- **{suggestion.severity.name}** {suggestion.title}: {suggestion.detail} ({triggers})"

def adviceBody (advice : List Advice) : String :=
  if advice.isEmpty then lines ["No suggestions."]
  else
    String.join (advice.map (fun entry =>
      lines ([s!"### `{entry.function}` (priority {entry.priority.title}, " ++
          s!"improvement score {entry.improvementScore})", ""] ++
        entry.suggestions.map suggestionLine ++ [""])))

def ofAnalysis (analysis : FileAnalysis) : Report :=
  let summary : ReportSummary :=
    { file := analysis.source.name
      totalLines := analysis.source.totalLines
      chunkCount := analysis.chunks.length
      functionCount := analysis.functions.length
      severeFindings := analysis.severeFindings
      cycleCount := analysis.graph.cycles.length
      criticalFunctions := analysis.graph.criticalFunctions }
  let risk := RiskSummary.ofFindings analysis.findings
  { summary
    risk
    sections :=
      [⟨.summary, "Summary", summaryBody summary risk⟩,
       ⟨.chunker, "Chunks", chunksBody analysis⟩,
       ⟨.functionExtractor, "Functions", functionsBody analysis⟩,
       ⟨.callGraph, "Call Graph", graphBody analysis.graph⟩,
       ⟨.riskScorer, "Security Risks", risksBody analysis.findings risk⟩,
       ⟨.advisor, "Refactoring Suggestions", adviceBody analysis.advice⟩] }

def markdown (report : Report) : String :=
  s!"# Analysis report: {report.summary.file}\n\n" ++
  String.join (report.sections.map (fun part => s!"## {part.title}\n\n{part.body}\n"))

/-- The section that comes from a part of the analysis. -/
def section? (report : Report) (source : SectionSource) : Option ReportSection :=
  report.sections.find? (fun part => part.source == source)

end Report

end CSurvey
