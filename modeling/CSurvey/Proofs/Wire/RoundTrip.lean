import CSurvey.Proofs.Json.Decode
import CSurvey.Proofs.Tally
import CSurvey.Wire.Operation

/-!
# Functions, chunks and call graphs survive the wire

A record, a chunk or a call graph that is written as JSON is read back as it was, as
long as all its numbers fit into words.  So a request that holds them is read.
-/

namespace CSurvey

open Json (nat?_nat str?_str bool?_bool float?_real list?_list strings?_strings slots?_obj)
open Json.Slot (required_bind optional_bind optional_absent_bind withDefault_bind)

/-- All counts fit into words. -/
def Tally.InWords (counts : Tally) : Prop :=
  ∀ entry ∈ counts.entries, entry.2 < wordSize

theorem Tally.inWords_of_count {counts : Tally} (fits : ∀ name, counts.count name < wordSize) :
    counts.InWords :=
  Tally.forall_count_lt_iff.1 fits

theorem Tally.nodup_names (counts : Tally) : counts.names.Nodup := by
  refine List.pairwise_map.2 (counts.sorted.imp ?_)
  intro first second before same
  exact String.lt_irrefl _ (same ▸ before)

theorem Tally.ofJson?_toJson {counts : Tally} (fits : counts.InWords) :
    Tally.ofJson? counts.toJson = some counts := by
  have read := Json.pairs?_obj counts.nodup_names (fun entry member => nat?_nat (fits entry member))
  rw [ofJson?, toJson, read, Option.bind_eq_bind, Option.bind_some, counts.ofPairs_entries]
  rfl

/-- All numbers of a span fit into words. -/
structure Span.InWords (span : Span) : Prop where
  start : span.start < wordSize
  stop : span.stop < wordSize
  line : span.line < wordSize
  endLine : span.endLine < wordSize

theorem Span.ofJson?_toJson {span : Span} (fits : span.InWords) :
    Span.ofJson? span.toJson = some span := by
  have slots := slots?_obj [("start", .nat span.start), ("end", .nat span.stop),
    ("line", .nat span.line), ("end_line", .nat span.endLine)] (by simp)
  simp only [List.map_cons, List.map_nil] at slots
  rw [ofJson?, toJson, slots, Option.bind_eq_bind, Option.bind_some]
  dsimp only
  rw [required_bind (nat?_nat fits.start), required_bind (nat?_nat fits.stop),
    required_bind (nat?_nat fits.line), required_bind (nat?_nat fits.endLine)]
  rfl

/-- All metrics fit into words. -/
structure Metrics.InWords (metrics : Metrics) : Prop where
  branchCount : metrics.branchCount < wordSize
  loopCount : metrics.loopCount < wordSize
  maxNestingDepth : metrics.maxNestingDepth < wordSize
  lineCount : metrics.lineCount < wordSize
  parameterCount : metrics.parameterCount < wordSize
  callCount : metrics.callCount < wordSize
  cyclomatic : metrics.cyclomatic < wordSize

theorem Metrics.ofJson?_toJson {metrics : Metrics} (fits : metrics.InWords) :
    Metrics.ofJson? metrics.toJson = some metrics := by
  have slots := slots?_obj [("branch_count", .nat metrics.branchCount),
    ("loop_count", .nat metrics.loopCount), ("max_nesting_depth", .nat metrics.maxNestingDepth),
    ("line_count", .nat metrics.lineCount), ("parameter_count", .nat metrics.parameterCount),
    ("call_count", .nat metrics.callCount), ("cyclomatic", .nat metrics.cyclomatic)] (by simp)
  simp only [List.map_cons, List.map_nil] at slots
  rw [ofJson?, toJson, slots, Option.bind_eq_bind, Option.bind_some]
  dsimp only
  rw [required_bind (nat?_nat fits.branchCount), required_bind (nat?_nat fits.loopCount),
    required_bind (nat?_nat fits.maxNestingDepth), required_bind (nat?_nat fits.lineCount),
    required_bind (nat?_nat fits.parameterCount), withDefault_bind (nat?_nat fits.callCount),
    withDefault_bind (nat?_nat fits.cyclomatic)]
  rfl

/-- All numbers of a record fit into words. -/
structure FunctionRecord.InWords (record : FunctionRecord) : Prop where
  ordinal : record.ordinal < wordSize
  chunkId : record.chunkId < wordSize
  span : record.span.InWords
  body : record.body.InWords
  calls : record.calls.InWords
  metrics : record.metrics.InWords

theorem FunctionRecord.ofJson?_toJson {record : FunctionRecord} (fits : record.InWords) :
    FunctionRecord.ofJson? record.toJson = some record := by
  have slots := slots?_obj [("name", .str record.name), ("ordinal", .nat record.ordinal),
    ("signature", .str record.signature), ("return_type", .str record.returnType),
    ("params", .str record.params), ("chunk_id", .nat record.chunkId),
    ("span", record.span.toJson), ("body", record.body.toJson), ("text", .str record.text),
    ("incomplete", .bool record.incomplete), ("calls", record.calls.toJson),
    ("metrics", record.metrics.toJson)] (by simp)
  simp only [List.map_cons, List.map_nil] at slots
  rw [ofJson?, toJson, slots, Option.bind_eq_bind, Option.bind_some]
  dsimp only
  rw [required_bind (str?_str _), withDefault_bind (nat?_nat fits.ordinal),
    required_bind (str?_str _), required_bind (str?_str _), required_bind (str?_str _),
    withDefault_bind (nat?_nat fits.chunkId), required_bind (Span.ofJson?_toJson fits.span),
    required_bind (Span.ofJson?_toJson fits.body), withDefault_bind (str?_str _),
    withDefault_bind (bool?_bool _), withDefault_bind (Tally.ofJson?_toJson fits.calls),
    withDefault_bind (Metrics.ofJson?_toJson fits.metrics)]
  rfl

/-- All numbers of a chunk fit into words. -/
structure Chunk.InWords (chunk : Chunk) : Prop where
  id : chunk.id < wordSize
  startLine : chunk.startLine < wordSize
  endLine : chunk.endLine < wordSize
  lineCount : chunk.lineCount < wordSize
  byteLength : chunk.byteLength < wordSize
  functions : ∀ record ∈ chunk.functions, record.InWords

theorem Chunk.ofJson?_toJson {chunk : Chunk} (fits : chunk.InWords) :
    Chunk.ofJson? chunk.toJson = some chunk := by
  have slots := slots?_obj [("id", .nat chunk.id), ("start_line", .nat chunk.startLine),
    ("end_line", .nat chunk.endLine), ("line_count", .nat chunk.lineCount),
    ("byte_len", .nat chunk.byteLength), ("raw_text", .str chunk.rawText),
    ("incomplete", .bool chunk.incomplete), ("oversized", .bool chunk.oversized),
    ("functions", .list FunctionRecord.toJson chunk.functions)] (by simp)
  have functions := list?_list (fun record member =>
    FunctionRecord.ofJson?_toJson (fits.functions record member))
  simp only [List.map_cons, List.map_nil] at slots
  rw [ofJson?, toJson, slots, Option.bind_eq_bind, Option.bind_some]
  dsimp only
  rw [required_bind (nat?_nat fits.id), required_bind (nat?_nat fits.startLine),
    required_bind (nat?_nat fits.endLine), required_bind (nat?_nat fits.lineCount),
    required_bind (nat?_nat fits.byteLength), required_bind (str?_str _),
    required_bind (bool?_bool _), required_bind (bool?_bool _), required_bind functions]
  rfl

/-- All numbers of a node fit into words. -/
structure GraphNode.InWords (node : GraphNode) : Prop where
  chunkId : node.chunkId < wordSize
  headerLine : node.headerLine < wordSize
  definitions : node.definitions < wordSize
  fanIn : node.fanIn < wordSize
  fanOut : node.fanOut < wordSize
  cyclomatic : node.cyclomatic < wordSize

theorem GraphNode.ofJson?_toJson {node : GraphNode} (fits : node.InWords) :
    GraphNode.ofJson? node.toJson = some node := by
  have slots := slots?_obj [("name", .str node.name), ("signature", .str node.signature),
    ("chunk_id", .nat node.chunkId), ("header_line", .nat node.headerLine),
    ("definitions", .nat node.definitions), ("fan_in", .nat node.fanIn),
    ("fan_out", .nat node.fanOut), ("self_recursive", .bool node.selfRecursive),
    ("in_cycle", .bool node.inCycle), ("cyclomatic", .nat node.cyclomatic),
    ("importance", .real node.importance), ("module_group", .str node.moduleGroup),
    ("external", .bool node.external)] (by simp)
  simp only [List.map_cons, List.map_nil] at slots
  rw [ofJson?, toJson, slots, Option.bind_eq_bind, Option.bind_some]
  dsimp only
  rw [required_bind (str?_str _), withDefault_bind (str?_str _),
    withDefault_bind (nat?_nat fits.chunkId), withDefault_bind (nat?_nat fits.headerLine),
    withDefault_bind (nat?_nat fits.definitions), required_bind (nat?_nat fits.fanIn),
    required_bind (nat?_nat fits.fanOut), withDefault_bind (bool?_bool _),
    withDefault_bind (bool?_bool _), withDefault_bind (nat?_nat fits.cyclomatic),
    withDefault_bind (float?_real _), withDefault_bind (str?_str _),
    withDefault_bind (bool?_bool _)]
  rfl

/-- All numbers of an edge fit into words. -/
structure GraphEdge.InWords (edge : GraphEdge) : Prop where
  count : edge.count < wordSize
  externalNames : edge.externalNames.InWords

/-- The names that an edge stands for are left out if there are none. -/
theorem GraphEdge.ofJson?_toJson {edge : GraphEdge} (fits : edge.InWords) :
    GraphEdge.ofJson? edge.toJson = some edge := by
  obtain ⟨caller, callee, count, externalNames⟩ := edge
  by_cases noNames : externalNames.isEmpty = true
  · have empty : externalNames = Tally.empty := by
      obtain ⟨entries, sorted⟩ := externalNames
      cases entries with
      | nil => rfl
      | cons entry rest => cases noNames
    have slots : Json.slots? ["caller", "callee", "count", "external_names"]
        (toJson ⟨caller, callee, count, Tally.empty⟩) =
          some [.given (.str caller), .given (.str callee), .given (.nat count), .absent] := rfl
    rw [empty, ofJson?, slots, Option.bind_eq_bind, Option.bind_some]
    dsimp only
    rw [required_bind (str?_str _), required_bind (str?_str _), required_bind (nat?_nat fits.count)]
    rfl
  · have slots := slots?_obj [("caller", .str caller), ("callee", .str callee),
      ("count", .nat count), ("external_names", externalNames.toJson)] (by simp)
    simp only [List.map_cons, List.map_nil] at slots
    rw [ofJson?, toJson, if_neg noNames, List.cons_append, List.cons_append, List.cons_append,
      List.nil_append, slots, Option.bind_eq_bind, Option.bind_some]
    dsimp only
    rw [required_bind (str?_str _), required_bind (str?_str _), required_bind (nat?_nat fits.count),
      withDefault_bind (Tally.ofJson?_toJson fits.externalNames)]
    rfl

theorem Cycle.ofJson?_toJson (cycle : Cycle) : Cycle.ofJson? cycle.toJson = some cycle := by
  have slots := slots?_obj [("members", .strings cycle.members)] (by simp)
  simp only [List.map_cons, List.map_nil] at slots
  rw [ofJson?, toJson, slots, Option.bind_eq_bind, Option.bind_some]
  dsimp only
  rw [required_bind (strings?_strings _)]
  rfl

theorem Component.ofJson?_toJson (component : Component) :
    Component.ofJson? component.toJson = some component := by
  have slots := slots?_obj [("members", .strings component.members),
    ("has_cycle", .bool component.hasCycle)] (by simp)
  simp only [List.map_cons, List.map_nil] at slots
  rw [ofJson?, toJson, slots, Option.bind_eq_bind, Option.bind_some]
  dsimp only
  rw [required_bind (strings?_strings _), required_bind (bool?_bool _)]
  rfl

/-- All numbers over a graph fit into words. -/
structure GraphStats.InWords (stats : GraphStats) : Prop where
  totalFunctions : stats.totalFunctions < wordSize
  totalEdges : stats.totalEdges < wordSize
  totalCalls : stats.totalCalls < wordSize
  externalCalls : stats.externalCalls < wordSize
  distinctExternalNames : stats.distinctExternalNames < wordSize
  maxFanIn : stats.maxFanIn < wordSize
  maxFanOut : stats.maxFanOut < wordSize
  maxCallDepth : stats.maxCallDepth < wordSize
  cycleCount : stats.cycleCount < wordSize
  recursiveFunctions : stats.recursiveFunctions < wordSize

theorem GraphStats.ofJson?_toJson {stats : GraphStats} (fits : stats.InWords) :
    GraphStats.ofJson? stats.toJson = some stats := by
  have slots := slots?_obj [("total_functions", .nat stats.totalFunctions),
    ("total_edges", .nat stats.totalEdges), ("total_calls", .nat stats.totalCalls),
    ("external_calls", .nat stats.externalCalls),
    ("distinct_external_names", .nat stats.distinctExternalNames),
    ("max_fan_in", .nat stats.maxFanIn), ("max_fan_out", .nat stats.maxFanOut),
    ("max_call_depth", .nat stats.maxCallDepth), ("cycle_count", .nat stats.cycleCount),
    ("recursive_functions", .nat stats.recursiveFunctions),
    ("avg_complexity", .real stats.avgComplexity)] (by simp)
  simp only [List.map_cons, List.map_nil] at slots
  rw [ofJson?, toJson, slots, Option.bind_eq_bind, Option.bind_some]
  dsimp only
  rw [required_bind (nat?_nat fits.totalFunctions), required_bind (nat?_nat fits.totalEdges),
    required_bind (nat?_nat fits.totalCalls), required_bind (nat?_nat fits.externalCalls),
    required_bind (nat?_nat fits.distinctExternalNames), required_bind (nat?_nat fits.maxFanIn),
    required_bind (nat?_nat fits.maxFanOut), required_bind (nat?_nat fits.maxCallDepth),
    required_bind (nat?_nat fits.cycleCount), required_bind (nat?_nat fits.recursiveFunctions),
    required_bind (float?_real _)]
  rfl

/-- All numbers of a graph fit into words. -/
structure CallGraph.InWords (graph : CallGraph) : Prop where
  nodes : ∀ node ∈ graph.nodes, node.InWords
  edges : ∀ edge ∈ graph.edges, edge.InWords
  stats : graph.stats.InWords

theorem CallGraph.ofJson?_toJson {graph : CallGraph} (fits : graph.InWords) :
    CallGraph.ofJson? graph.toJson = some graph.normalize := by
  have slots := slots?_obj [("nodes", .list GraphNode.toJson graph.nodes),
    ("edges", .list GraphEdge.toJson graph.edges), ("cycles", .list Cycle.toJson graph.cycles),
    ("components", .list Component.toJson graph.components),
    ("critical_functions", .strings graph.criticalFunctions),
    ("stats", graph.stats.toJson)] (by simp)
  have nodes := list?_list (fun node member => GraphNode.ofJson?_toJson (fits.nodes node member))
  have edges := list?_list (fun edge member => GraphEdge.ofJson?_toJson (fits.edges edge member))
  have cycles := list?_list (fun cycle (_ : cycle ∈ graph.cycles) => cycle.ofJson?_toJson)
  have components := list?_list
    (fun component (_ : component ∈ graph.components) => component.ofJson?_toJson)
  simp only [List.map_cons, List.map_nil] at slots
  rw [ofJson?, toJson, slots, Option.bind_eq_bind, Option.bind_some]
  dsimp only
  rw [required_bind nodes, required_bind edges, required_bind cycles, required_bind components,
    required_bind (strings?_strings _), required_bind (GraphStats.ofJson?_toJson fits.stats)]
  rfl

section Requests

theorem chunkRequest_text (text : String) :
    Request.ofJson? .chunk (.obj [("text", .str text)]) =
      some (.chunk ⟨⟨none, some text⟩, none⟩) :=
  rfl

theorem dependencyRequest_text (text : String) :
    Request.ofJson? .analyzeDependencies (.obj [("text", .str text)]) =
      some (.analyzeDependencies ⟨none, none, ⟨none, some text⟩⟩) :=
  rfl

theorem dependencyRequest_chunks {chunks : List Chunk} (fits : ∀ chunk ∈ chunks, chunk.InWords) :
    Request.ofJson? .analyzeDependencies (.obj [("chunks", .list Chunk.toJson chunks)]) =
      some (.analyzeDependencies ⟨none, some chunks, ⟨none, none⟩⟩) := by
  have read := Json.list?_list (fun chunk member => Chunk.ofJson?_toJson (fits chunk member))
  have slots : Json.objectSlots? ["functions", "chunks"]
      (.obj [("chunks", .list Chunk.toJson chunks)]) =
        some [.absent, .given (.list Chunk.toJson chunks)] := rfl
  rw [Request.ofJson?, DependencyRequest.ofJson?, slots, Option.bind_eq_bind, Option.bind_some]
  dsimp only
  rw [optional_absent_bind, optional_bind read Json.noConfusion]
  rfl

theorem dependencyRequest_functions {records : List FunctionRecord}
    (fits : ∀ record ∈ records, record.InWords) :
    Request.ofJson? .analyzeDependencies
        (.obj [("functions", .list FunctionRecord.toJson records)]) =
      some (.analyzeDependencies ⟨some records, none, ⟨none, none⟩⟩) := by
  have read := Json.list?_list (fun record member =>
    FunctionRecord.ofJson?_toJson (fits record member))
  have slots : Json.objectSlots? ["functions", "chunks"]
      (.obj [("functions", .list FunctionRecord.toJson records)]) =
        some [.given (.list FunctionRecord.toJson records), .absent] := rfl
  rw [Request.ofJson?, DependencyRequest.ofJson?, slots, Option.bind_eq_bind, Option.bind_some]
  dsimp only
  rw [optional_bind read Json.noConfusion]
  rfl

theorem diagramRequest_graph {value : Json} {input : GraphInput}
    (read : GraphInput.ofSource? value = some input) {maxNodes : Nat} (small : maxNodes < wordSize) :
    Request.ofJson? .renderDiagram (.obj [("graph", value), ("max_nodes", .nat maxNodes)]) =
      some (.renderDiagram ⟨input, none, some maxNodes, false, false⟩) := by
  have slots : Json.slots? ["graph", "chart_kind", "max_nodes", "mermaid", "dot"]
      (.obj [("graph", value), ("max_nodes", .nat maxNodes)]) =
        some [.given value, .absent, .given (.nat maxNodes), .absent, .absent] := rfl
  rw [Request.ofJson?, DiagramRequest.ofJson?, slots, Option.bind_eq_bind, Option.bind_some]
  dsimp only
  rw [required_bind read, optional_absent_bind,
    optional_bind (Json.nat?_nat small) Json.noConfusion]
  rfl

end Requests

end CSurvey
