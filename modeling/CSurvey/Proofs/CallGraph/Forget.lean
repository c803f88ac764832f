import CSurvey.CallGraph.Build
import CSurvey.Proofs.Sorted

/-!
# Graphs without chunks

The chunk in which a function stands is written on its node and decides nothing
else in a call graph: the graph of records without chunk numbers is the graph of
the records, less the chunk numbers on its nodes.
-/

namespace CSurvey

def FunctionRecord.forgetChunk (record : FunctionRecord) : FunctionRecord :=
  { record with chunkId := 0 }

def GraphNode.forgetChunk (node : GraphNode) : GraphNode :=
  { node with chunkId := 0 }

namespace CallGraph

def forgetChunks (graph : CallGraph) : CallGraph :=
  { graph with nodes := graph.nodes.map GraphNode.forgetChunk }

theorem definedNames_forgetChunk (records : List FunctionRecord) :
    definedNames (records.map FunctionRecord.forgetChunk) = definedNames records := by
  rw [definedNames, List.map_map]
  rfl

theorem filter_name_forgetChunk (records : List FunctionRecord) (name : String) :
    (records.map FunctionRecord.forgetChunk).filter (fun record => record.name == name) =
      (records.filter (fun record => record.name == name)).map FunctionRecord.forgetChunk := by
  rw [List.filter_map]
  rfl

theorem edgesOf_forgetChunk (records : List FunctionRecord) :
    edgesOf (records.map FunctionRecord.forgetChunk) = edgesOf records := by
  funext names caller
  have calls : callsOf (records.map FunctionRecord.forgetChunk) caller =
      callsOf records caller := by
    rw [callsOf, filter_name_forgetChunk, List.flatMap_map]
    rfl
  simp only [edgesOf, calls]

theorem earliest_forgetChunk (first : FunctionRecord) (rest : List FunctionRecord) :
    earliest first.forgetChunk (rest.map FunctionRecord.forgetChunk) =
      (earliest first rest).forgetChunk := by
  unfold earliest
  induction rest generalizing first with
  | nil => rfl
  | cons record rest ih =>
    have choice : (if isEarlier record.forgetChunk first.forgetChunk then record.forgetChunk
        else first.forgetChunk) =
          (if isEarlier record first then record else first).forgetChunk := by
      have same : isEarlier record.forgetChunk first.forgetChunk = isEarlier record first := rfl
      rw [same]
      split <;> rfl
    rw [List.map_cons, List.foldl_cons, List.foldl_cons, choice, ih]

theorem functionNode_forgetChunk (edges : List GraphEdge) (cycles : List Cycle)
    (first : FunctionRecord) (rest : List FunctionRecord) :
    functionNode edges cycles first.forgetChunk (rest.map FunctionRecord.forgetChunk) =
      (functionNode edges cycles first rest).forgetChunk := by
  simp only [functionNode, earliest_forgetChunk, List.length_map]
  rfl

theorem functions_forgetChunk (nodes : List GraphNode) :
    (nodes.map GraphNode.forgetChunk).filter (fun node => !node.external) =
      (nodes.filter (fun node => !node.external)).map GraphNode.forgetChunk := by
  rw [List.filter_map]
  rfl

theorem findComponents_forgetChunk (nodes : List GraphNode) (edges : List GraphEdge) :
    findComponents (nodes.map GraphNode.forgetChunk) edges = findComponents nodes edges := by
  have names : (GraphNode.name ∘ GraphNode.forgetChunk) = GraphNode.name := rfl
  simp only [findComponents, functions_forgetChunk, List.map_map, names, List.any_map]
  rfl

theorem pickCritical_forgetChunk (nodes : List GraphNode) :
    pickCritical (nodes.map GraphNode.forgetChunk) = pickCritical nodes := by
  have names : (GraphNode.name ∘ GraphNode.forgetChunk) = GraphNode.name := rfl
  have ranked : byImportance (nodes.map GraphNode.forgetChunk) =
      (byImportance nodes).map GraphNode.forgetChunk := by
    have keeps : ∀ first second : GraphNode,
        first.forgetChunk.outranks second.forgetChunk = first.outranks second :=
      fun _ _ => rfl
    rw [byImportance, functions_forgetChunk, Sorted.sort_map keeps, byImportance]
  simp only [pickCritical, ranked, List.length_map, ← List.map_take, List.map_map, names]

section Stats

variable (graph : CallGraph)

theorem node?_forgetChunks (name : String) :
    graph.forgetChunks.node? name = (graph.node? name).map GraphNode.forgetChunk := by
  have place : Sorted.partitionPoint (fun node => !node.external && decide (node.name < name))
        graph.forgetChunks.nodes =
      Sorted.partitionPoint (fun node => !node.external && decide (node.name < name))
        graph.nodes := by
    rw [forgetChunks, Sorted.partitionPoint_map]
    rfl
  have last : graph.forgetChunks.nodes.getLast?.filter
        (fun last => last.external && last.name == name) =
      (graph.nodes.getLast?.filter (fun last => last.external && last.name == name)).map
        GraphNode.forgetChunk := by
    rw [forgetChunks, List.getLast?_map, Option.filter_map]
    rfl
  simp only [node?, place, last]
  simp only [forgetChunks, List.getElem?_map]
  cases graph.nodes[Sorted.partitionPoint
    (fun node => !node.external && decide (node.name < name)) graph.nodes]? with
  | none => rfl
  | some node =>
    have name_eq : node.forgetChunk.name = node.name := rfl
    simp only [Option.map_some, name_eq]
    split <;> rfl

theorem depth_forgetChunks (roots : List String) :
    graph.forgetChunks.depth roots = graph.depth roots := by
  have contains : graph.forgetChunks.contains = graph.contains := by
    funext name
    simp only [CallGraph.contains, node?_forgetChunks, Option.isSome_map]
  rw [depth, levels, contains]
  rfl

theorem roots_forgetChunks : graph.forgetChunks.roots = graph.roots := by
  have functions : graph.forgetChunks.functions =
      graph.functions.map GraphNode.forgetChunk := functions_forgetChunk graph.nodes
  rw [roots, functions, List.filter_map, List.map_map]
  rfl

theorem computeStats_forgetChunks : computeStats graph.forgetChunks = computeStats graph := by
  have functions : graph.forgetChunks.functions =
      graph.functions.map GraphNode.forgetChunk := functions_forgetChunk graph.nodes
  have edges : graph.forgetChunks.edges = graph.edges := rfl
  have cycles : graph.forgetChunks.cycles = graph.cycles := rfl
  have fanIn : GraphNode.fanIn ∘ GraphNode.forgetChunk = GraphNode.fanIn := rfl
  have fanOut : GraphNode.fanOut ∘ GraphNode.forgetChunk = GraphNode.fanOut := rfl
  simp only [computeStats, functions, edges, cycles, roots_forgetChunks, depth_forgetChunks,
    List.length_map, List.map_map, fanIn, fanOut, List.isEmpty_map, List.foldl_map,
    List.countP_map]
  rfl

end Stats

/-- The node of the definitions of one name, if there are any. -/
def nodeOf? (edges : List GraphEdge) (cycles : List Cycle) : List FunctionRecord → Option GraphNode
  | [] => none
  | first :: rest => some (functionNode edges cycles first rest)

/-- The graph with the given nodes of functions, its numbers left out. -/
def assemble (functionNodes : List GraphNode) (edges : List GraphEdge) (cycles : List Cycle) :
    CallGraph :=
  let nodes :=
    if edges.any (fun edge => edge.callee == externalName) then
      functionNodes ++ [externalNode edges]
    else functionNodes
  { nodes, edges, cycles
    components := findComponents nodes edges
    criticalFunctions := pickCritical nodes
    stats := default }

/-- The same graph with its numbers filled in. -/
def withStats (graph : CallGraph) : CallGraph :=
  { graph with stats := graph.computeStats }

theorem build_eq (records : List FunctionRecord) :
    ∀ names edges cycles, names = definedNames records →
      edges = names.flatMap (edgesOf records names) → cycles = findCycles names edges →
      build records = (assemble
        (names.filterMap (fun name => nodeOf? edges cycles
          (records.filter (fun record => record.name == name)))) edges cycles).withStats := by
  rintro names edges cycles rfl rfl rfl
  rfl

theorem nodeOf?_forgetChunk (edges : List GraphEdge) (cycles : List Cycle)
    (records : List FunctionRecord) :
    nodeOf? edges cycles (records.map FunctionRecord.forgetChunk) =
      (nodeOf? edges cycles records).map GraphNode.forgetChunk := by
  cases records with
  | nil => rfl
  | cons first rest => simp [nodeOf?, functionNode_forgetChunk]

theorem assemble_forgetChunk (functionNodes : List GraphNode) (edges : List GraphEdge)
    (cycles : List Cycle) :
    assemble (functionNodes.map GraphNode.forgetChunk) edges cycles =
      (assemble functionNodes edges cycles).forgetChunks := by
  have nodes : (if edges.any (fun edge => edge.callee == externalName) then
        functionNodes.map GraphNode.forgetChunk ++ [externalNode edges]
      else functionNodes.map GraphNode.forgetChunk) =
      (if edges.any (fun edge => edge.callee == externalName) then
        functionNodes ++ [externalNode edges] else functionNodes).map GraphNode.forgetChunk := by
    split
    · rw [List.map_append]
      rfl
    · rfl
  simp only [assemble, nodes, findComponents_forgetChunk, pickCritical_forgetChunk]
  rfl

theorem withStats_forgetChunks (graph : CallGraph) :
    graph.forgetChunks.withStats = graph.withStats.forgetChunks := by
  rw [withStats, computeStats_forgetChunks]
  rfl

/-- Building a graph and forgetting chunks commute. -/
theorem build_forgetChunk (records : List FunctionRecord) :
    build (records.map FunctionRecord.forgetChunk) = (build records).forgetChunks := by
  rw [build_eq _ _ _ _ rfl rfl rfl, build_eq _ _ _ _ rfl rfl rfl, ← withStats_forgetChunks,
    ← assemble_forgetChunk, List.map_filterMap, definedNames_forgetChunk, edgesOf_forgetChunk]
  simp only [filter_name_forgetChunk, nodeOf?_forgetChunk]

end CallGraph

end CSurvey
