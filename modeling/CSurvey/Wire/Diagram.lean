import CSurvey.Diagram.Basic
import CSurvey.Wire.Function

/-!
# Diagrams as JSON
-/

namespace CSurvey

def ChartKind.toJson (kind : ChartKind) : Json :=
  .str kind.name

def ChartKind.ofJson? (value : Json) : Option ChartKind := do
  ChartKind.ofName? (← value.caseName?)

def InputEdge.ofJson? (value : Json) : Option InputEdge := do
  let [source, target, count] ← value.slots? ["from", "to", "count"] | none
  return {
    source := ← source.required Json.str?
    target := ← target.required Json.str?
    count := ← count.withDefault 1 Json.nat? }

def GraphInput.ofJson? (value : Json) : Option GraphInput := do
  let [nodes, edges] ← value.slots? ["nodes", "edges"] | none
  return {
    nodes := ← nodes.withDefault [] Json.strings?
    edges := ← edges.required (Json.list? InputEdge.ofJson?) }

/-- A mapping from names to lists of names, sorted by name. -/
def adjacencyOfJson? (value : Json) : Option (List (String × List String)) := do
  let pairs ← value.pairs? Json.strings?
  return Sorted.sort (fun first second => first.1 ≤ second.1) pairs

def DiagramNode.toJson (node : DiagramNode) : Json :=
  .obj [("id", .str node.id), ("label", .str node.label), ("degree", .nat node.degree),
    ("level", .nat node.level), ("group", .str node.group)]

def DiagramNode.ofJson? (value : Json) : Option DiagramNode := do
  let [id, label, degree, level, group] ←
    value.slots? ["id", "label", "degree", "level", "group"] | none
  return {
    id := ← id.required Json.str?
    label := ← label.required Json.str?
    degree := ← degree.required Json.nat?
    level := ← level.required Json.nat?
    group := ← group.required Json.str? }

def DiagramEdge.toJson (edge : DiagramEdge) : Json :=
  .obj [("from", .str edge.source), ("to", .str edge.target), ("count", .nat edge.count)]

def DiagramEdge.ofJson? (value : Json) : Option DiagramEdge := do
  let [source, target, count] ← value.slots? ["from", "to", "count"] | none
  return {
    source := ← source.required Json.str?
    target := ← target.required Json.str?
    count := ← count.required Json.nat? }

def ExternalAggregate.toJson (aggregate : ExternalAggregate) : Json :=
  .obj [("dropped", .strings aggregate.dropped), ("inbound", aggregate.inbound.toJson),
    ("outbound", aggregate.outbound.toJson), ("internal", .nat aggregate.internal)]

def ExternalAggregate.ofJson? (value : Json) : Option ExternalAggregate := do
  let [dropped, inbound, outbound, internal] ←
    value.slots? ["dropped", "inbound", "outbound", "internal"] | none
  return {
    dropped := ← dropped.required Json.strings?
    inbound := ← inbound.required Tally.ofJson?
    outbound := ← outbound.required Tally.ofJson?
    internal := ← internal.required Json.nat? }

def Diagram.toJson (diagram : Diagram) : Json :=
  .obj [("kind", diagram.kind.toJson), ("nodes", .list DiagramNode.toJson diagram.nodes),
    ("edges", .list DiagramEdge.toJson diagram.edges), ("external", diagram.external.toJson),
    ("total_nodes", .nat diagram.totalNodes), ("truncated", .bool diagram.truncated)]

def Diagram.ofJson? (value : Json) : Option Diagram := do
  let [kind, nodes, edges, external, totalNodes, truncated] ←
    value.slots? ["kind", "nodes", "edges", "external", "total_nodes", "truncated"] | none
  return {
    kind := ← kind.required ChartKind.ofJson?
    nodes := ← nodes.required (Json.list? DiagramNode.ofJson?)
    edges := ← edges.required (Json.list? DiagramEdge.ofJson?)
    external := ← external.required ExternalAggregate.ofJson?
    totalNodes := ← totalNodes.required Json.nat?
    truncated := ← truncated.required Json.bool? }

end CSurvey
