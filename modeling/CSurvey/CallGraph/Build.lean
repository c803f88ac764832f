import CSurvey.CallGraph.Basic
import CSurvey.Chunk
import CSurvey.NameHints

/-!
# Building call graphs

The graph of a list of function records.  Definitions of one name become one
node, which takes its signature and place from the earliest of them; their calls
are summed.
-/

namespace CSurvey

namespace CallGraph

/-- A count as a double. -/
def asFloat (count : Nat) : Float :=
  count.toUInt64.toFloat

/-- Two for each caller, a half for each callee and a tenth for each decision. -/
def importance (fanIn fanOut cyclomatic : Nat) : Float :=
  2.0 * asFloat fanIn + 0.5 * asFloat fanOut + 0.1 * asFloat cyclomatic

/-- The names of the records, sorted, each once. -/
def definedNames (records : List FunctionRecord) : List String :=
  (Tally.ofNames (records.map FunctionRecord.name)).names

/-- Whether the first of two records of a name begins earlier. -/
def isEarlier (first second : FunctionRecord) : Bool :=
  first.span.start < second.span.start ||
    (first.span.start == second.span.start && first.ordinal < second.ordinal)

/-- The earliest record; of several that begin alike, the first in the list. -/
def earliest (first : FunctionRecord) (rest : List FunctionRecord) : FunctionRecord :=
  rest.foldl (fun best record => if isEarlier record best then record else best) first

/-- The calls of all definitions of a name, with their counts. -/
def callsOf (records : List FunctionRecord) (name : String) : List (String × Nat) :=
  (records.filter (fun record => record.name == name)).flatMap (fun record => record.calls.entries)

def edgesOf (records : List FunctionRecord) (names : List String) (caller : String) :
    List GraphEdge :=
  let calls := callsOf records caller
  let targets := Tally.ofPairs (calls.map (fun call =>
    (if names.contains call.1 then call.1 else externalName, call.2)))
  let externals := Tally.ofPairs (calls.filter (fun call => !names.contains call.1))
  targets.entries.map (fun (callee, count) =>
    { caller, callee, count
      externalNames := if callee == externalName then externals else Tally.empty })

/-- Each name with the names that a walk along `edges` from it meets. -/
def reachTable (edges : List (String × String)) (names : List String) :
    List (String × List String) :=
  names.map (fun name => (name, Walk.reachable edges [name]))

/-- The groups of names that all reach each other, in the order of their first names. -/
def groups : List (String × List String) → List (List String)
  | [] => []
  | (name, reached) :: rest =>
    let members := (rest.filter (fun other =>
      reached.contains other.1 && other.2.contains name)).map (·.1)
    (name :: members) :: (groups rest).filter (fun group => !group.head?.any members.contains)

/-- The sets of two or more functions that all reach each other. -/
def findCycles (names : List String) (edges : List GraphEdge) : List Cycle :=
  let steps := (edges.filter (fun edge =>
    edge.callee != externalName && edge.caller != edge.callee)).map
      (fun edge => (edge.caller, edge.callee))
  ((groups (reachTable steps names)).filter (fun group => 2 ≤ group.length)).map Cycle.mk

/-- The sets of functions that edges connect, whatever their direction. -/
def findComponents (nodes : List GraphNode) (edges : List GraphEdge) : List Component :=
  let functions := nodes.filter (fun node => !node.external)
  let names := functions.map GraphNode.name
  let inside := edges.filter (fun edge => names.contains edge.caller && names.contains edge.callee)
  let steps := inside.flatMap (fun edge =>
    [(edge.caller, edge.callee), (edge.callee, edge.caller)])
  (groups (reachTable steps names)).map (fun members =>
    { members
      hasCycle := functions.any (fun node =>
        members.contains node.name && (node.inCycle || node.selfRecursive)) })

/-- The nodes of functions in order of importance. -/
def byImportance (nodes : List GraphNode) : List GraphNode :=
  Sorted.sort GraphNode.outranks (nodes.filter (fun node => !node.external))

/-- The names of the tenth of the functions, and at least one, that matter most. -/
def pickCritical (nodes : List GraphNode) : List String :=
  let ranked := byImportance nodes
  (ranked.take (max 1 (ranked.length / 10))).map GraphNode.name

/-- The number of callers of a name other than itself. -/
def fanInOf (edges : List GraphEdge) (name : String) : Nat :=
  edges.countP (fun edge => edge.callee == name && edge.caller != edge.callee)

/-- The number of callees of a name other than itself. -/
def fanOutOf (edges : List GraphEdge) (name : String) : Nat :=
  edges.countP (fun edge => edge.caller == name && edge.caller != edge.callee)

def functionNode (edges : List GraphEdge) (cycles : List Cycle) (first : FunctionRecord)
    (rest : List FunctionRecord) : GraphNode :=
  let name := first.name
  let source := earliest first rest
  let fanIn := fanInOf edges name
  let fanOut := fanOutOf edges name
  { name
    signature := source.signature
    chunkId := source.chunkId
    headerLine := source.span.line
    definitions := rest.length + 1
    fanIn
    fanOut
    selfRecursive := edges.any (fun edge => edge.caller == name && edge.callee == name)
    inCycle := cycles.any (fun cycle => cycle.members.contains name)
    cyclomatic := source.metrics.cyclomatic
    importance := importance fanIn fanOut source.metrics.cyclomatic
    moduleGroup := NameHints.group name
    external := false }

/-- The node that stands for the functions without a definition. -/
def externalNode (edges : List GraphEdge) : GraphNode :=
  { name := externalName
    signature := ""
    chunkId := 0
    headerLine := 0
    definitions := 0
    fanIn := fanInOf edges externalName
    fanOut := 0
    selfRecursive := false
    inCycle := false
    cyclomatic := 0
    importance := 0.0
    moduleGroup := "external"
    external := true }

def largest (counts : List Nat) : Nat :=
  counts.foldl max 0

/-- The numbers over a graph. -/
def computeStats (graph : CallGraph) : GraphStats :=
  let functions := graph.functions
  let internal := graph.edges.filter (fun edge => edge.callee != externalName)
  let external := graph.edges.filter (fun edge => edge.callee == externalName)
  { totalFunctions := functions.length
    totalEdges := internal.length
    totalCalls := (internal.map GraphEdge.count).sum
    externalCalls := (external.map GraphEdge.count).sum
    distinctExternalNames :=
      (graph.edges.flatMap (fun edge => edge.externalNames.names)).eraseDups.length
    maxFanIn := largest (functions.map GraphNode.fanIn)
    maxFanOut := largest (functions.map GraphNode.fanOut)
    maxCallDepth := graph.depth graph.roots
    cycleCount := graph.cycles.length
    recursiveFunctions := functions.countP (fun node => node.selfRecursive || node.inCycle)
    avgComplexity :=
      if functions.isEmpty then 0.0
      else functions.foldl (fun sum node => sum + asFloat node.cyclomatic) 0.0 /
        asFloat functions.length }

/-- The graph of a list of records.  Its counts are exact, also where they are too large for
words. -/
def build (records : List FunctionRecord) : CallGraph :=
  let names := definedNames records
  let edges := names.flatMap (edgesOf records names)
  let cycles := findCycles names edges
  let functionNodes := names.filterMap (fun name =>
    match records.filter (fun record => record.name == name) with
    | [] => none
    | first :: rest => some (functionNode edges cycles first rest))
  let nodes :=
    if edges.any (fun edge => edge.callee == externalName) then
      functionNodes ++ [externalNode edges]
    else functionNodes
  let graph : CallGraph :=
    { nodes, edges, cycles
      components := findComponents nodes edges
      criticalFunctions := pickCritical nodes
      stats := default }
  { graph with stats := graph.computeStats }

def ofChunks (chunks : List Chunk) : CallGraph :=
  build (chunks.flatMap Chunk.functions)

/-- The graph whose calls have been added up, unless a sum of them is too large for a word: the
addition that leads to it fails.  No sum is larger than those over all edges. -/
def checked (graph : CallGraph) : Except Fault CallGraph :=
  if graph.stats.totalCalls < wordSize ∧ graph.stats.externalCalls < wordSize then .ok graph
  else .error .overflow

end CallGraph

end CSurvey
