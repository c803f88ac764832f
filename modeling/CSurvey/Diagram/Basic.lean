import CSurvey.CallGraph.Basic
import CSurvey.Fault
import CSurvey.Sum
import CSurvey.Text.Search

/-!
# Diagrams

A diagram shows a directed graph with a bounded number of nodes.  Nodes that do
not fit are folded into one aggregate, which keeps the counts of all edges that
touch them.
-/

namespace CSurvey

/-- How a diagram is laid out. -/
inductive ChartKind where
  | flow
  | hierarchy
  | mindMap
deriving DecidableEq, Repr, Inhabited

namespace ChartKind

def all : List ChartKind :=
  [flow, hierarchy, mindMap]

def name : ChartKind → String
  | flow => "flow"
  | hierarchy => "hierarchy"
  | mindMap => "mind_map"

/-- Words that name a kind, the name itself first. -/
def words : ChartKind → List String
  | flow => ["flow", "flowchart"]
  | hierarchy => ["hierarchy", "graph"]
  | mindMap => ["mind_map", "mindmap", "radial"]

/-- The kind with a given name, exactly as written. -/
def ofName? (name : String) : Option ChartKind :=
  all.find? (fun kind => kind.name == name)

/-- The kind that a word names, whatever the case of its letters. -/
def parse (word : String) : Except Fault ChartKind :=
  let lower := Text.lower word
  match all.find? (fun kind => kind.words.contains lower) with
  | some kind => .ok kind
  | none => .error (.argument (.unknownChartKind lower))

end ChartKind

/-- An edge of a graph to be drawn. -/
structure InputEdge where
  source : String
  target : String
  count : Nat
deriving DecidableEq, Repr, Inhabited

/-- A graph to be drawn.  The order of the nodes breaks ties; names that only edges mention follow
in the order of their first mention. -/
structure GraphInput where
  nodes : List String
  edges : List InputEdge
deriving DecidableEq, Repr, Inhabited

namespace GraphInput

/-- The graph in which each name of a mapping, sorted by name, has an edge to each name listed for
it. -/
def ofAdjacency (mapping : List (String × List String)) : GraphInput where
  nodes := mapping.map (·.1)
  edges := mapping.flatMap (fun (source, targets) =>
    targets.map (fun target => ⟨source, target, 1⟩))

/-- The graph of the calls of some functions. -/
def ofCallGraph (graph : CallGraph) : GraphInput where
  nodes := graph.nodes.map GraphNode.name
  edges := graph.edges.map (fun edge => ⟨edge.caller, edge.callee, edge.count⟩)

end GraphInput

/-- A node that is shown. -/
structure DiagramNode where
  /-- An identifier of letters, digits and underscores that no other node shown has. -/
  id : String
  label : String
  /-- The number of edges that join it to other nodes of the whole graph. -/
  degree : Nat
  /-- Its level in a walk over the nodes shown. -/
  level : Nat
  group : String
deriving DecidableEq, Repr, Inhabited

/-- An edge between nodes that are shown. -/
structure DiagramEdge where
  source : String
  target : String
  count : Nat
deriving DecidableEq, Repr, Inhabited

/-- What is not shown. -/
structure ExternalAggregate where
  /-- The names of the nodes, in their order. -/
  dropped : List String
  /-- For each label shown, the counts of the edges to it from nodes that are not. -/
  inbound : Tally
  /-- For each label shown, the counts of the edges from it to nodes that are not. -/
  outbound : Tally
  /-- The counts of the edges among nodes that are not shown. -/
  internal : Nat
deriving DecidableEq

namespace ExternalAggregate

def isEmpty (aggregate : ExternalAggregate) : Bool :=
  aggregate.dropped.isEmpty

/-- The counts of all edges that touch nodes that are not shown, unless a sum of them is too large
for a word. -/
def total? (aggregate : ExternalAggregate) : Option Nat := do
  let inbound ← sumWords? (aggregate.inbound.entries.map (·.2))
  let outbound ← sumWords? (aggregate.outbound.entries.map (·.2))
  plus? (← plus? inbound outbound) aggregate.internal

end ExternalAggregate

structure Diagram where
  kind : ChartKind
  /-- The nodes shown, those with most neighbours first. -/
  nodes : List DiagramNode
  edges : List DiagramEdge
  external : ExternalAggregate
  /-- The number of nodes of the whole graph. -/
  totalNodes : Nat
  truncated : Bool
deriving DecidableEq

namespace Diagram

def counts (diagram : Diagram) : List Nat :=
  diagram.edges.map DiagramEdge.count ++ diagram.external.inbound.entries.map (·.2) ++
    diagram.external.outbound.entries.map (·.2) ++ [diagram.external.internal]

/-- The counts of all edges of the whole graph, unless a sum of them is too large for a word. -/
def edgeTotal? (diagram : Diagram) : Option Nat := do
  let shown ← sumWords? (diagram.edges.map DiagramEdge.count)
  plus? shown (← diagram.external.total?)

def node? (diagram : Diagram) (label : String) : Option DiagramNode :=
  diagram.nodes.find? (fun node => node.label == label)

/-- The identifier of a label; of several nodes with one label, of the last. -/
def idOf? (diagram : Diagram) (label : String) : Option String :=
  (diagram.nodes.reverse.find? (fun node => node.label == label)).map DiagramNode.id

end Diagram

end CSurvey
