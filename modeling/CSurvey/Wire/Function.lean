import CSurvey.Chunk
import CSurvey.Json.Decode

/-!
# Functions and chunks as JSON

The JSON form of spans, metrics, function records and chunks, and its reading.
-/

namespace CSurvey

/-- A tally as an object, its names in order. -/
def Tally.toJson (counts : Tally) : Json :=
  .obj (counts.entries.map (fun entry => (entry.1, .nat entry.2)))

def Tally.ofJson? (value : Json) : Option Tally := do
  return Tally.ofPairs (← value.pairs? Json.nat?)

def Span.toJson (span : Span) : Json :=
  .obj [("start", .nat span.start), ("end", .nat span.stop), ("line", .nat span.line),
    ("end_line", .nat span.endLine)]

def Span.ofJson? (value : Json) : Option Span := do
  let [start, stop, line, endLine] ← value.slots? ["start", "end", "line", "end_line"] | none
  return {
    start := ← start.required Json.nat?
    stop := ← stop.required Json.nat?
    line := ← line.required Json.nat?
    endLine := ← endLine.required Json.nat? }

def Metrics.toJson (metrics : Metrics) : Json :=
  .obj [("branch_count", .nat metrics.branchCount), ("loop_count", .nat metrics.loopCount),
    ("max_nesting_depth", .nat metrics.maxNestingDepth), ("line_count", .nat metrics.lineCount),
    ("parameter_count", .nat metrics.parameterCount), ("call_count", .nat metrics.callCount),
    ("cyclomatic", .nat metrics.cyclomatic)]

def Metrics.ofJson? (value : Json) : Option Metrics := do
  let [branches, loops, nesting, lines, parameters, calls, cyclomatic] ←
    value.slots? ["branch_count", "loop_count", "max_nesting_depth", "line_count",
      "parameter_count", "call_count", "cyclomatic"] | none
  return {
    branchCount := ← branches.required Json.nat?
    loopCount := ← loops.required Json.nat?
    maxNestingDepth := ← nesting.required Json.nat?
    lineCount := ← lines.required Json.nat?
    parameterCount := ← parameters.required Json.nat?
    callCount := ← calls.withDefault 0 Json.nat?
    cyclomatic := ← cyclomatic.withDefault 0 Json.nat? }

def FunctionRecord.toJson (record : FunctionRecord) : Json :=
  .obj [("name", .str record.name), ("ordinal", .nat record.ordinal),
    ("signature", .str record.signature), ("return_type", .str record.returnType),
    ("params", .str record.params), ("chunk_id", .nat record.chunkId),
    ("span", record.span.toJson), ("body", record.body.toJson), ("text", .str record.text),
    ("incomplete", .bool record.incomplete), ("calls", record.calls.toJson),
    ("metrics", record.metrics.toJson)]

def FunctionRecord.ofJson? (value : Json) : Option FunctionRecord := do
  let [name, ordinal, signature, returnType, params, chunkId, span, body, text, incomplete, calls,
      metrics] ←
    value.slots? ["name", "ordinal", "signature", "return_type", "params", "chunk_id", "span",
      "body", "text", "incomplete", "calls", "metrics"] | none
  return {
    name := ← name.required Json.str?
    ordinal := ← ordinal.withDefault 1 Json.nat?
    signature := ← signature.required Json.str?
    returnType := ← returnType.required Json.str?
    params := ← params.required Json.str?
    chunkId := ← chunkId.withDefault 0 Json.nat?
    span := ← span.required Span.ofJson?
    body := ← body.required Span.ofJson?
    text := ← text.withDefault "" Json.str?
    incomplete := ← incomplete.withDefault false Json.bool?
    calls := ← calls.withDefault Tally.empty Tally.ofJson?
    metrics := ← metrics.withDefault Metrics.zero Metrics.ofJson? }

def Chunk.toJson (chunk : Chunk) : Json :=
  .obj [("id", .nat chunk.id), ("start_line", .nat chunk.startLine),
    ("end_line", .nat chunk.endLine), ("line_count", .nat chunk.lineCount),
    ("byte_len", .nat chunk.byteLength), ("raw_text", .str chunk.rawText),
    ("incomplete", .bool chunk.incomplete), ("oversized", .bool chunk.oversized),
    ("functions", .list FunctionRecord.toJson chunk.functions)]

def Chunk.ofJson? (value : Json) : Option Chunk := do
  let [id, startLine, endLine, lineCount, byteLength, rawText, incomplete, oversized, functions] ←
    value.slots? ["id", "start_line", "end_line", "line_count", "byte_len", "raw_text",
      "incomplete", "oversized", "functions"] | none
  return {
    id := ← id.required Json.nat?
    startLine := ← startLine.required Json.nat?
    endLine := ← endLine.required Json.nat?
    lineCount := ← lineCount.required Json.nat?
    byteLength := ← byteLength.required Json.nat?
    rawText := ← rawText.required Json.str?
    incomplete := ← incomplete.required Json.bool?
    oversized := ← oversized.required Json.bool?
    functions := ← functions.required (Json.list? FunctionRecord.ofJson?) }

def SourceInfo.toJson (info : SourceInfo) : Json :=
  .obj [("name", .str info.name), ("hash", .str info.hash),
    ("total_lines", .nat info.totalLines), ("total_bytes", .nat info.totalBytes)]

def SourceInfo.ofJson? (value : Json) : Option SourceInfo := do
  let [name, hash, totalLines, totalBytes] ←
    value.slots? ["name", "hash", "total_lines", "total_bytes"] | none
  return {
    name := ← name.required Json.str?
    hash := ← hash.required Json.str?
    totalLines := ← totalLines.required Json.nat?
    totalBytes := ← totalBytes.required Json.nat? }

def CallSite.toJson (site : CallSite) : Json :=
  .obj [("name", .str site.name), ("span", site.span.toJson)]

end CSurvey
