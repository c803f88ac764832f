import CSurvey.CallGraph.Build
import CSurvey.Wire.Function

/-!
# Call graphs as JSON

A graph that is read is put in order.
-/

namespace CSurvey

def GraphNode.toJson (node : GraphNode) : Json :=
  .obj [("name", .str node.name), ("signature", .str node.signature),
    ("chunk_id", .nat node.chunkId), ("header_line", .nat node.headerLine),
    ("definitions", .nat node.definitions), ("fan_in", .nat node.fanIn),
    ("fan_out", .nat node.fanOut), ("self_recursive", .bool node.selfRecursive),
    ("in_cycle", .bool node.inCycle), ("cyclomatic", .nat node.cyclomatic),
    ("importance", .real node.importance), ("module_group", .str node.moduleGroup),
    ("external", .bool node.external)]

def GraphNode.ofJson? (value : Json) : Option GraphNode := do
  let [name, signature, chunkId, headerLine, definitions, fanIn, fanOut, selfRecursive, inCycle,
      cyclomatic, importance, moduleGroup, external] ←
    value.slots? ["name", "signature", "chunk_id", "header_line", "definitions", "fan_in",
      "fan_out", "self_recursive", "in_cycle", "cyclomatic", "importance", "module_group",
      "external"] | none
  return {
    name := ← name.required Json.str?
    signature := ← signature.withDefault "" Json.str?
    chunkId := ← chunkId.withDefault 0 Json.nat?
    headerLine := ← headerLine.withDefault 0 Json.nat?
    definitions := ← definitions.withDefault 0 Json.nat?
    fanIn := ← fanIn.required Json.nat?
    fanOut := ← fanOut.required Json.nat?
    selfRecursive := ← selfRecursive.withDefault false Json.bool?
    inCycle := ← inCycle.withDefault false Json.bool?
    cyclomatic := ← cyclomatic.withDefault 0 Json.nat?
    importance := ← importance.withDefault 0.0 Json.float?
    moduleGroup := ← moduleGroup.withDefault "" Json.str?
    external := ← external.withDefault false Json.bool? }

def GraphEdge.toJson (edge : GraphEdge) : Json :=
  .obj ([("caller", .str edge.caller), ("callee", .str edge.callee), ("count", .nat edge.count)] ++
    (if edge.externalNames.isEmpty then []
     else [("external_names", edge.externalNames.toJson)]))

def GraphEdge.ofJson? (value : Json) : Option GraphEdge := do
  let [caller, callee, count, externalNames] ←
    value.slots? ["caller", "callee", "count", "external_names"] | none
  return {
    caller := ← caller.required Json.str?
    callee := ← callee.required Json.str?
    count := ← count.required Json.nat?
    externalNames := ← externalNames.withDefault Tally.empty Tally.ofJson? }

def Cycle.toJson (cycle : Cycle) : Json :=
  .obj [("members", .strings cycle.members)]

def Cycle.ofJson? (value : Json) : Option Cycle := do
  let [members] ← value.slots? ["members"] | none
  return ⟨← members.required Json.strings?⟩

def Component.toJson (component : Component) : Json :=
  .obj [("members", .strings component.members), ("has_cycle", .bool component.hasCycle)]

def Component.ofJson? (value : Json) : Option Component := do
  let [members, hasCycle] ← value.slots? ["members", "has_cycle"] | none
  return ⟨← members.required Json.strings?, ← hasCycle.required Json.bool?⟩

def GraphStats.toJson (stats : GraphStats) : Json :=
  .obj [("total_functions", .nat stats.totalFunctions), ("total_edges", .nat stats.totalEdges),
    ("total_calls", .nat stats.totalCalls), ("external_calls", .nat stats.externalCalls),
    ("distinct_external_names", .nat stats.distinctExternalNames),
    ("max_fan_in", .nat stats.maxFanIn), ("max_fan_out", .nat stats.maxFanOut),
    ("max_call_depth", .nat stats.maxCallDepth), ("cycle_count", .nat stats.cycleCount),
    ("recursive_functions", .nat stats.recursiveFunctions),
    ("avg_complexity", .real stats.avgComplexity)]

def GraphStats.ofJson? (value : Json) : Option GraphStats := do
  let [functions, edges, calls, external, names, fanIn, fanOut, depth, cycles, recursive,
      complexity] ←
    value.slots? ["total_functions", "total_edges", "total_calls", "external_calls",
      "distinct_external_names", "max_fan_in", "max_fan_out", "max_call_depth", "cycle_count",
      "recursive_functions", "avg_complexity"] | none
  return {
    totalFunctions := ← functions.required Json.nat?
    totalEdges := ← edges.required Json.nat?
    totalCalls := ← calls.required Json.nat?
    externalCalls := ← external.required Json.nat?
    distinctExternalNames := ← names.required Json.nat?
    maxFanIn := ← fanIn.required Json.nat?
    maxFanOut := ← fanOut.required Json.nat?
    maxCallDepth := ← depth.required Json.nat?
    cycleCount := ← cycles.required Json.nat?
    recursiveFunctions := ← recursive.required Json.nat?
    avgComplexity := ← complexity.required Json.float? }

def CallGraph.toJson (graph : CallGraph) : Json :=
  .obj [("nodes", .list GraphNode.toJson graph.nodes),
    ("edges", .list GraphEdge.toJson graph.edges), ("cycles", .list Cycle.toJson graph.cycles),
    ("components", .list Component.toJson graph.components),
    ("critical_functions", .strings graph.criticalFunctions), ("stats", graph.stats.toJson)]

def CallGraph.ofJson? (value : Json) : Option CallGraph := do
  let [nodes, edges, cycles, components, critical, stats] ←
    value.slots? ["nodes", "edges", "cycles", "components", "critical_functions", "stats"] | none
  let graph : CallGraph := {
    nodes := ← nodes.required (Json.list? GraphNode.ofJson?)
    edges := ← edges.required (Json.list? GraphEdge.ofJson?)
    cycles := ← cycles.required (Json.list? Cycle.ofJson?)
    components := ← components.required (Json.list? Component.ofJson?)
    criticalFunctions := ← critical.required Json.strings?
    stats := ← stats.required GraphStats.ofJson? }
  return graph.normalize

end CSurvey
