import CSurvey.Sorted
import CSurvey.Sum
import CSurvey.Tally
import CSurvey.Walk

/-!
# Call graphs

The functions of a file and the calls between them.  Names without a definition
are folded into one node of their own, which remembers what it stands for.  Nodes
are sorted by name, that one last, and edges by caller and callee.
-/

namespace CSurvey

/-- The name of the node that stands for all functions without a definition. -/
def externalName : String :=
  "<external>"

structure GraphNode where
  name : String
  /-- The signature of the earliest definition. -/
  signature : String
  chunkId : Nat
  headerLine : Nat
  /-- The number of definitions of the name. -/
  definitions : Nat
  /-- The number of callers other than itself. -/
  fanIn : Nat
  /-- The number of callees other than itself. -/
  fanOut : Nat
  selfRecursive : Bool
  /-- Whether it is one of several functions that all reach each other. -/
  inCycle : Bool
  cyclomatic : Nat
  importance : Float
  moduleGroup : String
  external : Bool
deriving Inhabited

structure GraphEdge where
  caller : String
  callee : String
  /-- Call sites, summed over the definitions of the caller. -/
  count : Nat
  /-- The names that an edge to the external node stands for. -/
  externalNames : Tally
deriving DecidableEq, Inhabited

/-- Two or more functions that all reach each other, sorted by name. -/
structure Cycle where
  members : List String
deriving DecidableEq, Repr, Inhabited

/-- Functions that calls connect, whatever their direction, sorted by name. -/
structure Component where
  members : List String
  hasCycle : Bool
deriving DecidableEq, Repr, Inhabited

structure GraphStats where
  totalFunctions : Nat
  /-- Edges between functions, those from a function to itself included. -/
  totalEdges : Nat
  /-- Call sites of those edges. -/
  totalCalls : Nat
  externalCalls : Nat
  distinctExternalNames : Nat
  maxFanIn : Nat
  maxFanOut : Nat
  /-- The largest level of a walk from the functions that nothing else calls. -/
  maxCallDepth : Nat
  cycleCount : Nat
  /-- Functions that call themselves or are members of a cycle. -/
  recursiveFunctions : Nat
  avgComplexity : Float
deriving Inhabited

structure CallGraph where
  nodes : List GraphNode
  edges : List GraphEdge
  cycles : List Cycle
  components : List Component
  /-- The most important functions, the best first. -/
  criticalFunctions : List String
  stats : GraphStats
deriving Inhabited

namespace GraphNode

def precedes (first second : GraphNode) : Bool :=
  if first.external == second.external then first.name ≤ second.name else second.external

/-- The place of a double in the order of all doubles, those with the sign bit first. -/
def orderKey (x : Float) : Nat :=
  let bits := x.toBits.toNat
  if bits < Nat.pow 2 63 then Nat.pow 2 63 + bits else wordSize - 1 - bits

def outranks (first second : GraphNode) : Bool :=
  if orderKey first.importance == orderKey second.importance then first.name ≤ second.name
  else orderKey second.importance < orderKey first.importance

end GraphNode

namespace GraphEdge

def precedes (first second : GraphEdge) : Bool :=
  if first.caller == second.caller then first.callee ≤ second.callee
  else first.caller ≤ second.caller

end GraphEdge

namespace CallGraph

/-- The same graph with its nodes and edges in order. -/
def normalize (graph : CallGraph) : CallGraph :=
  { graph with
    nodes := Sorted.sort GraphNode.precedes graph.nodes
    edges := Sorted.sort GraphEdge.precedes graph.edges }

/-- The node of a name.  A function comes before the external node; nodes in order hold it right
after the functions with smaller names. -/
def node? (graph : CallGraph) (name : String) : Option GraphNode :=
  let place := Sorted.partitionPoint (fun node => !node.external && node.name < name) graph.nodes
  match graph.nodes[place]? with
  | some node =>
    if node.name == name then some node
    else graph.nodes.getLast?.filter (fun last => last.external && last.name == name)
  | none => graph.nodes.getLast?.filter (fun last => last.external && last.name == name)

def functions (graph : CallGraph) : List GraphNode :=
  graph.nodes.filter (fun node => !node.external)

/-- The edges of a caller, in the order of their callees. -/
def edgesFrom (graph : CallGraph) (caller : String) : List GraphEdge :=
  let low := Sorted.partitionPoint (fun edge => edge.caller < caller) graph.edges
  let high := Sorted.partitionPoint (fun edge => edge.caller ≤ caller) graph.edges
  (graph.edges.take high).drop low

def callees (graph : CallGraph) (caller : String) : List String :=
  (graph.edgesFrom caller).map GraphEdge.callee

def callers (graph : CallGraph) (callee : String) : List String :=
  (graph.edges.filter (fun edge => edge.callee == callee)).map GraphEdge.caller

/-- The names without a definition that a caller calls. -/
def externalCalls (graph : CallGraph) (caller : String) : Tally :=
  match (graph.edgesFrom caller).find? (fun edge => edge.callee == externalName) with
  | some edge => edge.externalNames
  | none => Tally.empty

def roots (graph : CallGraph) : List String :=
  (graph.functions.filter (fun node => node.fanIn == 0)).map GraphNode.name

def isEmpty (graph : CallGraph) : Bool :=
  graph.nodes.isEmpty

/-- The calls that a walk follows: those to functions. -/
def steps (graph : CallGraph) : List (String × String) :=
  (graph.edges.filter (fun edge => edge.callee != externalName)).map
    (fun edge => (edge.caller, edge.callee))

/-- Whether a walk may start at a name. -/
def contains (graph : CallGraph) (name : String) : Bool :=
  name != externalName && (graph.node? name).isSome

/-- The functions that calls from `roots` reach, with the least number of calls. -/
def levels (graph : CallGraph) (roots : List String) : List (String × Nat) :=
  Walk.levels graph.steps (roots.filter graph.contains)

def depth (graph : CallGraph) (roots : List String) : Nat :=
  Walk.depth (graph.levels roots)

end CallGraph

end CSurvey
