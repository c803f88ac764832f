import CSurvey.Batch
import CSurvey.Engine.Response

/-!
# Responses as text

What the command line prints for a response when it is not asked for JSON.  Columns are
padded with spaces to a width, counted in characters; longer text is left as it is.
-/

namespace CSurvey.CommandLine

def filling (width : Nat) (text : String) : String :=
  String.ofList (List.replicate (width - text.length) ' ')

/-- The text at the right of its column. -/
def right (width : Nat) (text : String) : String :=
  filling width text ++ text

/-- The text at the left of its column. -/
def left (width : Nat) (text : String) : String :=
  text ++ filling width text

/-- A count at the right of its column. -/
def rightCount (width count : Nat) : String :=
  right width (toString count)

/-- Lines, each ended by a line feed. -/
def unlines (lines : List String) : String :=
  String.join (lines.map (· ++ "\n"))

def chunkLine (chunk : Chunk) : String :=
  let flags := (if chunk.oversized then ["oversized"] else []) ++
    (if chunk.incomplete then ["incomplete"] else [])
  s!"{right 4 chunk.label}  lines {rightCount 6 chunk.startLine}-" ++
  s!"{left 6 (toString chunk.endLine)} {rightCount 3 chunk.functions.length} function(s) " ++
  " ".intercalate flags

def chunkText (response : ChunkResponse) : String :=
  let source := response.source
  unlines (s!"{source.name}: {source.totalLines} lines, {response.chunks.length} chunk(s)" :: "" ::
    response.chunks.map chunkLine)

def functionText (analysis : FunctionAnalysis) : String :=
  match analysis.record with
  | none => unlines ["No function found."]
  | some record =>
    unlines ([s!"{record.key} (lines {record.span.line}-{record.span.endLine})",
        s!"  complexity: {analysis.complexityLevel} (cyclomatic {record.metrics.cyclomatic})",
        "  calls: " ++ ", ".intercalate record.calls.names] ++
      (match analysis.riskLevel with
       | none => []
       | some level => [s!"  risk: {level.name} ({analysis.findings.length} finding(s))"]) ++
      analysis.purposeHints.map (fun hint => s!"  purpose: {hint}"))

def adviceText (advice : Advice) : String :=
  unlines ([s!"{advice.function} (priority {advice.priority.title}, " ++
      s!"score {advice.improvementScore})"] ++
    advice.suggestions.map (fun suggestion =>
      s!"  [{suggestion.severity.name}] {suggestion.title}: {suggestion.detail}") ++
    (if advice.isEmpty then ["  no suggestions"] else []))

def nodeLine (node : GraphNode) : String :=
  s!"  {left 32 node.name} in {rightCount 3 node.fanIn}  out {rightCount 3 node.fanOut}"

def graphText (graph : CallGraph) : String :=
  unlines ([s!"{graph.stats.totalFunctions} function(s), {graph.stats.totalEdges} edge(s), " ++
      s!"{graph.cycles.length} cycle(s)"] ++
    graph.functions.map nodeLine ++
    graph.cycles.map (fun cycle => "  cycle: " ++ " ↔ ".intercalate cycle.members) ++
    (if graph.criticalFunctions.isEmpty then []
     else ["  critical: " ++ ", ".intercalate graph.criticalFunctions]))

/-- The name of a match kind as a word of its own. -/
def kindTitle : MatchKind → String
  | .function => "Function"
  | .variableName => "Variable"
  | .string => "String"
  | .comment => "Comment"
  | .code => "Code"

def hitLine (hit : SearchMatch) : String :=
  s!"{hit.span.line}:{kindTitle hit.kind}" ++
  (if hit.isDefinition then " (definition)" else "") ++ "  " ++ hit.context

def searchText (response : SearchResponse) : String :=
  unlines (response.hits.map hitLine ++
    (if response.truncated then
      [s!"... {response.hits.length} of {response.total} matches shown"]
     else []))

def findingLine (finding : Finding) : String :=
  let scope := finding.function.getD "<top level>"
  s!"  {rightCount 5 finding.span.line}  {finding.severity.name} " ++
  s!"{left 24 finding.patternId} {finding.matched} in {scope}"

def auditText (response : AuditResponse) : String :=
  unlines ([s!"{response.source.name}: {response.summary.total} finding(s), " ++
      s!"security score {response.summary.securityScore}"] ++
    response.findings.map findingLine)

def recommendText (response : RecommendResponse) : String :=
  unlines (response.recommendations.map (fun entry =>
    s!"{left 22 entry.operation} {entry.description}"))

def summaryLine (summary : FileSummary) : String :=
  match summary.fault with
  | some fault => s!"{summary.path}: [ERROR] {fault.message}"
  | none =>
    s!"{summary.path}: {summary.functions} function(s), {summary.findings} finding(s) " ++
    s!"({summary.severeFindings} severe), {summary.cycles} cycle(s), " ++
    s!"score {summary.securityScore}"

end CSurvey.CommandLine
