import CSurvey.Proofs.CallGraph.Cycles
import CSurvey.Proofs.Wire.RoundTrip

/-!
# The numbers of a call graph

The nodes of a graph are not more than the records that it is built from, and its
edges and external names not more than the names that the records call.  So all
its numbers fit into words if those of the records do, a word can count the records
and what they call, and no sum of calls is too large for a word.
-/

namespace CSurvey.CallGraph

def calledNames (records : List FunctionRecord) : List String :=
  records.flatMap (fun record => record.calls.names)

/-- All numbers of the records fit into words, and so does the number of records and of the names
that they call. -/
structure FitWords (records : List FunctionRecord) : Prop where
  inWords : ∀ record ∈ records, record.InWords
  few : records.length + (calledNames records).length < wordSize

variable {records : List FunctionRecord}

section Lengths

theorem length_definedNames_le (records : List FunctionRecord) :
    (definedNames records).length ≤ records.length := by
  have among : definedNames records ⊆ records.map FunctionRecord.name := by
    intro name defined
    obtain ⟨record, member, rfl⟩ := mem_definedNames.1 defined
    exact List.mem_map_of_mem member
  rw [← List.length_map FunctionRecord.name]
  exact ((nodup_definedNames records).subperm among).length_le

theorem length_functions_le (records : List FunctionRecord) :
    (build records).functions.length ≤ records.length := by
  rw [← List.length_map GraphNode.name, map_name_functions]
  exact length_definedNames_le records

/-- Each edge stands for a name that a record calls. -/
theorem length_edges_le (records : List FunctionRecord) :
    (build records).edges.length ≤ (calledNames records).length := by
  have among : (build records).edges.map (fun edge => (edge.caller, edge.callee)) ⊆
      records.flatMap (fun record =>
        record.calls.names.map (fun callee => (record.name, nodeName records callee))) := by
    intro ends isEdge
    obtain ⟨edge, member, rfl⟩ := List.mem_map.1 isEdge
    obtain ⟨callee, ⟨record, isRecord, named, called⟩, stands⟩ := (mem_edges.1 member).1
    refine List.mem_flatMap.2 ⟨record, isRecord, List.mem_map.2 ⟨callee, called, ?_⟩⟩
    rw [named, stands]
  have bound := ((nodup_ends records).subperm among).length_le
  simpa [calledNames, List.length_flatMap] using bound

theorem length_externalNames_le (records : List FunctionRecord) :
    ((build records).edges.flatMap (fun edge => edge.externalNames.names)).eraseDups.length ≤
      (calledNames records).length := by
  refine ((nodup_eraseDups _).subperm ?_).length_le
  intro name member
  obtain ⟨edge, isEdge, isName⟩ := List.mem_flatMap.1 (List.mem_eraseDups.1 member)
  rw [(mem_edges.1 isEdge).2.2] at isName
  split at isName
  · rw [mem_names_externals] at isName
    obtain ⟨-, record, isRecord, -, called⟩ := isName
    exact List.mem_flatMap.2 ⟨record, isRecord, called⟩
  · cases isName

theorem length_cycles_le (records : List FunctionRecord) :
    (build records).cycles.length ≤ records.length := by
  rw [cycles_build, List.length_map]
  refine (List.length_filter_le ..).trans ((length_groups_le _).trans ?_)
  rw [reachTable, List.length_map]
  exact length_definedNames_le records

end Lengths

theorem exists_record_of_mem_functions {node : GraphNode}
    (member : node ∈ (build records).functions) :
    ∃ record ∈ records, shownBy node = shown record := by
  rw [functions_build] at member
  obtain ⟨-, isNode⟩ := exists_of_mem_functionNodes member
  cases own : records.filter (fun record => record.name == node.name) with
  | nil => simp [own, nodeOf?] at isNode
  | cons first rest =>
    rw [own, nodeOf?, Option.some.injEq] at isNode
    refine ⟨earliest first rest, (List.mem_filter.1 (own ▸ (earliest_spec first rest).1)).1, ?_⟩
    rw [← isNode]
    rfl

theorem largest_lt {counts : List Nat} {bound : Nat} (positive : 0 < bound)
    (all : ∀ count ∈ counts, count < bound) : largest counts < bound :=
  List.foldlRecOn (motive := (· < bound)) counts max positive
    (fun _ small count member => Nat.max_lt.2 ⟨small, all count member⟩)

section Words

variable (fits : FitWords records) (inside : recordedInternal records < wordSize)
  (outside : recordedExternal records < wordSize)

include fits in
theorem fanInOf_lt (name : String) : fanInOf (build records).edges name < wordSize := by
  have bound : fanInOf (build records).edges name ≤ _ := List.countP_le_length
  have edges := length_edges_le records
  have few := fits.few
  omega

include fits in
theorem fanOutOf_lt (name : String) : fanOutOf (build records).edges name < wordSize := by
  have bound : fanOutOf (build records).edges name ≤ _ := List.countP_le_length
  have edges := length_edges_le records
  have few := fits.few
  omega

include inside outside in
theorem edge_inWords {edge : GraphEdge} (member : edge ∈ (build records).edges) :
    edge.InWords := by
  obtain ⟨⟨callee, makes, -⟩, count, names⟩ := mem_edges.1 member
  have caller : edge.caller ∈ definedNames records := mem_definedNames.2 makes.defined
  constructor
  case count => exact count ▸ count_targets_lt inside outside caller edge.callee
  case externalNames =>
    rw [names]
    split
    · exact Tally.inWords_of_count (count_externals_lt inside outside caller)
    · exact fun entry member => absurd member List.not_mem_nil

include fits inside outside in
theorem stats_inWords : (build records).stats.InWords := by
  have positive : 0 < wordSize := Nat.zero_lt_of_lt fits.few
  have functions := length_functions_le records
  have edges := length_edges_le records
  have few := fits.few
  constructor
  case totalFunctions => exact Nat.lt_of_le_of_lt functions (by omega)
  case totalEdges =>
    have internal : (build records).stats.totalEdges ≤ (build records).edges.length :=
      List.length_filter_le ..
    omega
  case totalCalls => exact totalCalls_build records ▸ inside
  case externalCalls => exact externalCalls_build records ▸ outside
  case distinctExternalNames =>
    exact Nat.lt_of_le_of_lt (length_externalNames_le records) (by omega)
  case maxFanIn =>
    refine largest_lt positive (fun count member => ?_)
    obtain ⟨node, isFunction, rfl⟩ := List.mem_map.1 member
    rw [(fields_of_mem_functions isFunction).1]
    exact fanInOf_lt fits node.name
  case maxFanOut =>
    refine largest_lt positive (fun count member => ?_)
    obtain ⟨node, isFunction, rfl⟩ := List.mem_map.1 member
    rw [(fields_of_mem_functions isFunction).2.1]
    exact fanOutOf_lt fits node.name
  case maxCallDepth =>
    have depth := Walk.depth_levels_le (build records).steps
      ((build records).roots.filter (build records).contains)
    have steps : (build records).steps.length ≤ (build records).edges.length := by
      rw [steps, List.length_map]
      exact List.length_filter_le ..
    exact Nat.lt_of_le_of_lt depth (by omega)
  case cycleCount => exact Nat.lt_of_le_of_lt (length_cycles_le records) (by omega)
  case recursiveFunctions =>
    exact Nat.lt_of_le_of_lt (List.countP_le_length.trans functions) (by omega)

include fits in
theorem node_inWords {node : GraphNode} (member : node ∈ (build records).nodes) :
    node.InWords := by
  rcases mem_nodes.1 member with isFunction | ⟨-, rfl⟩
  · obtain ⟨fanIn, fanOut, -, -, definitions⟩ := fields_of_mem_functions isFunction
    obtain ⟨record, isRecord, shows⟩ := exists_record_of_mem_functions isFunction
    simp only [shownBy, shown, Prod.mk.injEq] at shows
    obtain ⟨-, chunkId, headerLine, cyclomatic⟩ := shows
    have few := fits.few
    have small := fits.inWords record isRecord
    constructor
    case chunkId => exact chunkId ▸ small.chunkId
    case headerLine => exact headerLine ▸ small.span.line
    case cyclomatic => exact cyclomatic ▸ small.metrics.cyclomatic
    case definitions =>
      rw [definitions]
      exact Nat.lt_of_le_of_lt List.countP_le_length (by omega)
    case fanIn => exact fanIn ▸ fanInOf_lt fits node.name
    case fanOut => exact fanOut ▸ fanOutOf_lt fits node.name
  · have positive : 0 < wordSize := Nat.zero_lt_of_lt fits.few
    exact ⟨positive, positive, positive, fanInOf_lt fits externalName, positive, positive⟩

include fits in
theorem inWords_of_checked {graph : CallGraph} (built : (build records).checked = .ok graph) :
    graph.InWords := by
  obtain ⟨inside, outside, rfl⟩ := checked_build_iff.1 built
  exact ⟨fun _ => node_inWords fits, fun _ => edge_inWords inside outside,
    stats_inWords fits inside outside⟩

end Words

end CSurvey.CallGraph
