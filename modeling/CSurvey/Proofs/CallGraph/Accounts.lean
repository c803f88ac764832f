import CSurvey.Proofs.CallGraph.Edges
import Mathlib.Data.Set.Card

/-!
# A call graph accounts for every call

A graph has one node for each function, in the order of the names, and one for all
names without a definition if there is an edge to it.  The fans of a node count the
other nodes at the ends of its edges.

The calls of all records are on the edges of their graph: each edge has the calls
between its ends, summed over the definitions of the caller, and nothing is lost
or counted twice.  The fans, marks and numbers of the nodes follow from the edges.
-/

namespace CSurvey.CallGraph

theorem ncard_eq_length {α β : Type} {items : List α} (shown : α → β)
    (distinct : (items.map shown).Nodup) {members : Set β}
    (same : ∀ member, member ∈ members ↔ member ∈ items.map shown) :
    members.ncard = items.length := by
  classical
  have listed : members = ↑(items.map shown).toFinset := by
    ext member
    simp only [same, Finset.mem_coe, List.mem_toFinset]
  rw [listed, Set.ncard_coe_finset, List.toFinset_card_of_nodup distinct, List.length_map]

/-- Items of a list without repetitions are as many as what is shown of them, if that tells them
apart. -/
theorem ncard_eq_countP {α β γ : Type} {items : List α} {key : α → γ}
    (distinct : (items.map key).Nodup) (shown : α → β) {test : α → Bool} {members : Set β}
    (apart : ∀ first second, test first = true → test second = true →
      shown first = shown second → key first = key second)
    (same : ∀ member, member ∈ members ↔ ∃ item ∈ items, test item = true ∧ shown item = member) :
    members.ncard = items.countP test := by
  rw [List.countP_eq_length_filter]
  refine ncard_eq_length shown ?_ ?_
  · have keys := (List.pairwise_map.1 distinct).filter test
    refine List.pairwise_map.2 (keys.imp_of_mem ?_)
    intro first second inFirst inSecond different sameShown
    exact different (apart first second (List.mem_filter.1 inFirst).2 (List.mem_filter.1 inSecond).2
      sameShown)
  · intro member
    simp only [same, List.mem_map, List.mem_filter, and_assoc]

section FunctionNodes

variable {edges : List GraphEdge} {cycles : List Cycle} {records : List FunctionRecord}
  {node : GraphNode}

theorem fields_of_mem_functionNodes (member : node ∈ functionNodes edges cycles records) :
    node.fanIn = fanInOf edges node.name ∧ node.fanOut = fanOutOf edges node.name ∧
      node.selfRecursive =
        edges.any (fun edge => edge.caller == node.name && edge.callee == node.name) ∧
      node.inCycle = cycles.any (fun cycle => cycle.members.contains node.name) ∧
      node.definitions = records.countP (fun record => record.name == node.name) := by
  obtain ⟨-, isNode⟩ := exists_of_mem_functionNodes member
  rw [List.countP_eq_length_filter]
  cases own : records.filter (fun record => record.name == node.name) with
  | nil => simp [own, nodeOf?] at isNode
  | cons first rest =>
    have inOwn : first ∈ records.filter (fun record => record.name == node.name) := by simp [own]
    have named : first.name = node.name := beq_iff_eq.1 (List.mem_filter.1 inOwn).2
    rw [own, nodeOf?, Option.some.injEq] at isNode
    rw [← named, ← isNode]
    exact ⟨rfl, rfl, rfl, rfl, rfl⟩

theorem map_name_functionNodes (edges : List GraphEdge) (cycles : List Cycle)
    (records : List FunctionRecord) :
    (functionNodes edges cycles records).map GraphNode.name = definedNames records := by
  have own : ∀ name ∈ definedNames records,
      (nodeOf? edges cycles (records.filter (fun record => record.name == name))).map
        GraphNode.name = some name := by
    intro name defined
    obtain ⟨record, member, named⟩ := mem_definedNames.1 defined
    have inOwn : record ∈ records.filter (fun record => record.name == name) :=
      List.mem_filter.2 ⟨member, beq_iff_eq.2 named⟩
    cases others : records.filter (fun record => record.name == name) with
    | nil => simp [others] at inOwn
    | cons first rest =>
      have isFirst : first ∈ records.filter (fun record => record.name == name) := by simp [others]
      exact congrArg some (beq_iff_eq.1 (List.mem_filter.1 isFirst).2)
  rw [functionNodes, List.map_filterMap, List.filterMap_congr own, List.filterMap_some]

end FunctionNodes

section Counted

variable {records : List FunctionRecord} {node : GraphNode}

theorem nodes_build (records : List FunctionRecord) :
    (build records).nodes =
      if (build records).edges.any (fun edge => edge.callee == externalName) then
        functionNodes (build records).edges (build records).cycles records ++
          [externalNode (build records).edges]
      else functionNodes (build records).edges (build records).cycles records :=
  rfl

theorem map_name_functions (records : List FunctionRecord) :
    (build records).functions.map GraphNode.name = definedNames records := by
  rw [functions_build, map_name_functionNodes]

theorem mem_nodes :
    node ∈ (build records).nodes ↔ node ∈ (build records).functions ∨
      (∃ caller, Calls records caller externalName) ∧
        node = externalNode (build records).edges := by
  have external : (build records).edges.any (fun edge => edge.callee == externalName) = true ↔
      ∃ caller, Calls records caller externalName := by
    simp only [List.any_eq_true, beq_iff_eq, ← exists_edge]
    constructor
    · rintro ⟨edge, member, callee⟩
      exact ⟨edge.caller, edge, member, rfl, callee⟩
    · rintro ⟨caller, edge, member, -, callee⟩
      exact ⟨edge, member, callee⟩
  rw [nodes_build, ← functions_build, ← external]
  split
  · rename_i called
    simp [called]
  · rename_i uncalled
    simp [uncalled]

theorem mem_map_name_nodes {name : String} :
    name ∈ (build records).nodes.map GraphNode.name ↔
      Defined records name ∨ name = externalName ∧ ∃ caller, Calls records caller externalName := by
  have functions : name ∈ (build records).functions.map GraphNode.name ↔ Defined records name := by
    rw [map_name_functions, mem_definedNames, Defined]
  rw [← functions]
  simp only [List.mem_map, mem_nodes]
  constructor
  · rintro ⟨node, isFunction | ⟨calls, rfl⟩, rfl⟩
    · exact Or.inl ⟨node, isFunction, rfl⟩
    · exact Or.inr ⟨rfl, calls⟩
  · rintro (⟨node, isFunction, rfl⟩ | ⟨rfl, calls⟩)
    · exact ⟨node, Or.inl isFunction, rfl⟩
    · exact ⟨_, Or.inr ⟨calls, rfl⟩, rfl⟩

theorem fields_of_mem_functions (member : node ∈ (build records).functions) :
    node.fanIn = fanInOf (build records).edges node.name ∧
      node.fanOut = fanOutOf (build records).edges node.name ∧
      (node.selfRecursive = true ↔ Calls records node.name node.name) ∧
      (node.inCycle = true ↔ ∃ cycle ∈ (build records).cycles, node.name ∈ cycle.members) ∧
      node.definitions = records.countP (fun record => record.name == node.name) := by
  rw [functions_build] at member
  obtain ⟨fanIn, fanOut, selfRecursive, inCycle, definitions⟩ := fields_of_mem_functionNodes member
  refine ⟨fanIn, fanOut, ?_, ?_, definitions⟩
  · rw [selfRecursive, ← exists_edge]
    simp only [List.any_eq_true, Bool.and_eq_true, beq_iff_eq]
  · rw [inCycle]
    simp only [List.any_eq_true, List.contains_iff_mem]

/-- The callers of a node other than itself. -/
theorem ncard_callers (records : List FunctionRecord) (name : String) :
    {caller | caller ≠ name ∧ Calls records caller name}.ncard =
      fanInOf (build records).edges name := by
  refine ncard_eq_countP (nodup_ends records) GraphEdge.caller ?_ ?_
  · intro first second isFirst isSecond caller
    simp only [Bool.and_eq_true, beq_iff_eq] at isFirst isSecond
    exact Prod.ext caller (isFirst.1.trans isSecond.1.symm)
  · intro caller
    simp only [Set.mem_ofPred_eq, ← exists_edge, Bool.and_eq_true, beq_iff_eq, bne_iff_ne]
    constructor
    · rintro ⟨different, edge, member, rfl, rfl⟩
      exact ⟨edge, member, ⟨rfl, different⟩, rfl⟩
    · rintro ⟨edge, member, ⟨rfl, different⟩, rfl⟩
      exact ⟨different, edge, member, rfl, rfl⟩

theorem ncard_callees (records : List FunctionRecord) (name : String) :
    {other | other ≠ name ∧ Calls records name other}.ncard =
      fanOutOf (build records).edges name := by
  refine ncard_eq_countP (nodup_ends records) GraphEdge.callee ?_ ?_
  · intro first second isFirst isSecond callee
    simp only [Bool.and_eq_true, beq_iff_eq] at isFirst isSecond
    exact Prod.ext (isFirst.1.trans isSecond.1.symm) callee
  · intro callee
    simp only [Set.mem_ofPred_eq, ← exists_edge, Bool.and_eq_true, beq_iff_eq, bne_iff_ne]
    constructor
    · rintro ⟨different, edge, member, rfl, rfl⟩
      exact ⟨edge, member, ⟨rfl, different.symm⟩, rfl⟩
    · rintro ⟨edge, member, ⟨rfl, different⟩, rfl⟩
      exact ⟨different.symm, edge, member, rfl, rfl⟩

end Counted

/-- The graph says of the calls of the records what there is to say. -/
structure AccountsFor (graph : CallGraph) (records : List FunctionRecord) : Prop where
  /-- A function calls another if and only if they have an edge. -/
  edge : ∀ caller callee, Defined records callee →
    ((∃ edge ∈ graph.edges, edge.caller = caller ∧ edge.callee = callee) ↔
      Makes records caller callee)
  count : ∀ edge ∈ graph.edges, Defined records edge.callee →
    edge.count = callCount records edge.caller edge.callee
  /-- All names without a definition share one edge. -/
  externalEdge : ∀ caller,
    (∃ edge ∈ graph.edges, edge.caller = caller ∧ edge.callee = externalName) ↔
      ∃ callee, ¬ Defined records callee ∧ Makes records caller callee
  externalNames : ∀ edge ∈ graph.edges, edge.callee = externalName → ∀ callee,
    callee ∈ edge.externalNames.names ↔
      ¬ Defined records callee ∧ Makes records edge.caller callee
  externalCounts : ∀ edge ∈ graph.edges, edge.callee = externalName →
    ∀ callee ∈ edge.externalNames.names,
      edge.externalNames.count callee = callCount records edge.caller callee
  externalCount : ∀ edge ∈ graph.edges, edge.callee = externalName →
    edge.count = (edge.externalNames.entries.map (·.2)).sum
  /-- There are no other edges, and none twice. -/
  callees : ∀ edge ∈ graph.edges, Defined records edge.callee ∨ edge.callee = externalName
  ends : (graph.edges.map (fun edge => (edge.caller, edge.callee))).Nodup
  total : (graph.edges.map GraphEdge.count).sum = recordedCalls records
  stats : graph.stats.totalCalls + graph.stats.externalCalls = recordedCalls records
  /-- Each function has one node, and the names without a definition share one. -/
  names : ∀ name, name ∈ graph.nodes.map GraphNode.name ↔
    Defined records name ∨ name = externalName ∧ ∃ caller, Calls records caller externalName
  nodes : (graph.nodes.map GraphNode.name).Nodup
  fanIn : ∀ node ∈ graph.nodes,
    node.fanIn = {caller | caller ≠ node.name ∧ Calls records caller node.name}.ncard
  fanOut : ∀ node ∈ graph.nodes,
    node.fanOut = {other | other ≠ node.name ∧ Calls records node.name other}.ncard
  selfRecursive : ∀ node ∈ graph.nodes, node.selfRecursive = true ↔
    ∃ edge ∈ graph.edges, edge.caller = node.name ∧ edge.callee = node.name
  definitions : ∀ node ∈ graph.nodes,
    node.definitions = records.countP (fun record => record.name == node.name)

section Nodes

variable {records : List FunctionRecord} (named : ¬ Defined records externalName)
  {node : GraphNode}
include named

theorem not_calls_of_externalName (node : String) : ¬ Calls records externalName node := by
  rintro ⟨callee, makes, -⟩
  exact named makes.defined

/-- The external node is described like the others. -/
theorem fields_of_mem_nodes (member : node ∈ (build records).nodes) :
    node.fanIn = fanInOf (build records).edges node.name ∧
      node.fanOut = fanOutOf (build records).edges node.name ∧
      (node.selfRecursive = true ↔ Calls records node.name node.name) ∧
      node.definitions = records.countP (fun record => record.name == node.name) := by
  rcases mem_nodes.1 member with isFunction | ⟨-, rfl⟩
  · obtain ⟨fanIn, fanOut, selfRecursive, -, definitions⟩ := fields_of_mem_functions isFunction
    exact ⟨fanIn, fanOut, selfRecursive, definitions⟩
  · have silent := not_calls_of_externalName named
    have nothing : fanOutOf (build records).edges externalName = 0 := by
      rw [← ncard_callees]
      simp [silent]
    have undefined : records.countP (fun record => record.name == externalName) = 0 := by
      rw [List.countP_eq_zero]
      intro record member same
      exact named ⟨record, member, beq_iff_eq.1 same⟩
    refine ⟨rfl, nothing.symm, ?_, undefined.symm⟩
    exact iff_of_false Bool.false_ne_true (silent externalName)

theorem nodup_map_name_nodes : ((build records).nodes.map GraphNode.name).Nodup := by
  have functions := map_name_functions records
  have distinct := nodup_definedNames records
  rw [nodes_build, ← functions_build]
  split
  · rw [List.map_append, functions]
    refine distinct.append (List.nodup_singleton _) ?_
    intro name defined external
    obtain rfl : name = externalName := List.mem_singleton.1 external
    exact named (mem_definedNames.1 defined)
  · rwa [functions]

end Nodes

/-- The graph of records, none of which has the name of the external node and whose calls a word
can count, is built and accounts for all their calls. -/
theorem build_accountsFor {records : List FunctionRecord}
    (named : ∀ record ∈ records, record.name ≠ externalName)
    (fits : recordedCalls records < wordSize) :
    (build records).checked = .ok (build records) ∧ (build records).AccountsFor records := by
  have named : ¬ Defined records externalName := by
    rintro ⟨record, member, same⟩
    exact named record member same
  have names : ∀ edge ∈ (build records).edges, edge.callee = externalName →
      edge.externalNames = externals records edge.caller := by
    intro edge member external
    rw [(mem_edges.1 member).2.2, if_pos external]
  refine ⟨checked_build_of_fits fits, ?_⟩
  constructor
  case edge =>
    intro caller callee defined
    rw [exists_edge, calls_iff_of_defined named defined]
  case count =>
    intro edge member defined
    rw [(mem_edges.1 member).2.1, count_targets_of_defined named defined]
  case externalEdge =>
    intro caller
    rw [exists_edge, calls_externalName_iff named]
  case externalNames =>
    intro edge member external callee
    rw [names edge member external, mem_names_externals]
  case externalCounts =>
    intro edge member external callee isName
    rw [names edge member external] at isName ⊢
    exact count_externals (mem_names_externals.1 isName).1
  case externalCount =>
    intro edge member external
    rw [(mem_edges.1 member).2.1, external, count_targets_externalName named,
      names edge member external]
  case callees =>
    intro edge member
    exact defined_or_externalName (mem_edges.1 member).1
  case ends => exact nodup_ends records
  case total => exact sum_edges records
  case stats =>
    rw [totalCalls_build, externalCalls_build, recordedInternal_add_recordedExternal]
  case names =>
    intro name
    exact mem_map_name_nodes
  case nodes => exact nodup_map_name_nodes named
  case fanIn =>
    intro node member
    rw [(fields_of_mem_nodes named member).1, ncard_callers]
  case fanOut =>
    intro node member
    rw [(fields_of_mem_nodes named member).2.1, ncard_callees]
  case selfRecursive =>
    intro node member
    rw [(fields_of_mem_nodes named member).2.2.1, exists_edge]
  case definitions =>
    intro node member
    exact (fields_of_mem_nodes named member).2.2.2

/-- Two definitions of one name, a function that calls itself, and a call of the name of the
external node. -/
theorem build_accountsFor_two_definitions :
    let first : FunctionRecord :=
      { (default : FunctionRecord) with
        name := "f", calls := Tally.ofPairs [("f", 1), ("g", 2), ("puts", 1)] }
    let second : FunctionRecord :=
      { first with
        ordinal := 2, calls := Tally.ofPairs [("g", 3), ("puts", 1), ("<external>", 2)] }
    let third : FunctionRecord := { first with name := "g", calls := Tally.empty }
    let records := [first, third, second]
    (∀ record ∈ records, record.name ≠ externalName) ∧ recordedCalls records < wordSize ∧
      (build records).checked = .ok (build records) ∧ (build records).AccountsFor records ∧
      (build records).edges.map (fun edge =>
        (edge.caller, edge.callee, edge.count, edge.externalNames.entries)) =
          [("f", "<external>", 4, [("<external>", 2), ("puts", 2)]), ("f", "f", 1, []),
            ("f", "g", 5, [])] ∧
      (build records).nodes.map (fun node =>
        (node.name, node.definitions, node.fanIn, node.fanOut, node.selfRecursive)) =
          [("f", 2, 0, 2, true), ("g", 1, 1, 0, false), ("<external>", 0, 1, 0, false)] := by
  intro first second third records
  have named : ∀ record ∈ records, record.name ≠ externalName := by decide +kernel
  have fits : recordedCalls records < wordSize := by decide +kernel
  obtain ⟨built, accounts⟩ := build_accountsFor named fits
  exact ⟨named, fits, built, accounts, by decide +kernel, by decide +kernel⟩

end CSurvey.CallGraph
