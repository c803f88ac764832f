import CSurvey.Proofs.CallGraph.Accounts
import CSurvey.Proofs.CallGraph.Words
import CSurvey.Proofs.Sorted

/-!
# Lookups in a call graph

The nodes and edges of a graph that was built are in order, and whatever order they
are brought into, this one is restored.  In it halving finds the nodes and edges
that scans of the whole graph find.
-/

namespace CSurvey

namespace GraphNode

variable {first second third : GraphNode}

theorem precedes_iff :
    first.precedes second = true ↔ first.external = false ∧ second.external = true ∨
      first.external = second.external ∧ first.name ≤ second.name := by
  cases isFirst : first.external <;> cases isSecond : second.external <;>
    simp [precedes, isFirst, isSecond]

theorem precedes_total (first second : GraphNode) :
    first.precedes second = true ∨ second.precedes first = true := by
  simp only [precedes_iff]
  cases first.external <;> cases second.external <;> simp [String.le_total]

theorem precedes_trans (first second third : GraphNode) (before : first.precedes second = true)
    (after : second.precedes third = true) : first.precedes third = true := by
  rw [precedes_iff] at before after ⊢
  rcases before with ⟨isFirst, isSecond⟩ | ⟨same, before⟩
  · rcases after with ⟨isSecond', -⟩ | ⟨same, -⟩
    · exact absurd (isSecond'.symm.trans isSecond) Bool.false_ne_true
    · exact Or.inl ⟨isFirst, same ▸ isSecond⟩
  · rcases after with ⟨isSecond, isThird⟩ | ⟨same', after⟩
    · exact Or.inl ⟨same.trans isSecond, isThird⟩
    · exact Or.inr ⟨same.trans same', String.le_trans before after⟩

end GraphNode

namespace GraphEdge

theorem precedes_iff {first second : GraphEdge} :
    first.precedes second = true ↔ first.caller < second.caller ∨
      first.caller = second.caller ∧ first.callee ≤ second.callee := by
  by_cases same : first.caller = second.caller
  · simp [precedes, same]
  · simp [precedes, same, le_iff_lt_or_eq]

theorem precedes_total (first second : GraphEdge) :
    first.precedes second = true ∨ second.precedes first = true := by
  simp only [precedes_iff]
  rcases lt_trichotomy first.caller second.caller with less | same | more
  · exact Or.inl (Or.inl less)
  · simp [same, String.le_total]
  · exact Or.inr (Or.inl more)

theorem precedes_trans (first second third : GraphEdge) (before : first.precedes second = true)
    (after : second.precedes third = true) : first.precedes third = true := by
  rw [precedes_iff] at before after ⊢
  rcases before with before | ⟨same, before⟩
  · rcases after with after | ⟨same, -⟩
    · exact Or.inl (String.lt_trans before after)
    · exact Or.inl (same ▸ before)
  · rcases after with after | ⟨same', after⟩
    · exact Or.inl (same ▸ after)
    · exact Or.inr ⟨same.trans same', String.le_trans before after⟩

end GraphEdge

namespace CallGraph

/-- Functions by name, then at most one external node, and edges by caller and callee. -/
structure InOrder (graph : CallGraph) : Prop where
  nodes : graph.nodes.Pairwise (fun first second =>
    first.external = false ∧ (second.external = false → first.name < second.name))
  names : (graph.nodes.map GraphNode.name).Nodup
  edges : graph.edges.Pairwise (fun first second => first.caller < second.caller ∨
    first.caller = second.caller ∧ first.callee < second.callee)

/-- What is looked up in a graph is what scans of its nodes and edges find. -/
structure LooksUp (graph : CallGraph) : Prop where
  node : ∀ name node, graph.node? name = some node ↔ node ∈ graph.nodes ∧ node.name = name
  edgesFrom : ∀ caller,
    graph.edgesFrom caller = graph.edges.filter (fun edge => edge.caller == caller)
  sorted : ∀ caller,
    (graph.edgesFrom caller).Pairwise (fun first second => first.callee < second.callee)
  callees : ∀ caller callee, callee ∈ graph.callees caller ↔ caller ∈ graph.callers callee
  externalCalls : ∀ edge ∈ graph.edges, edge.callee = externalName →
    graph.externalCalls edge.caller = edge.externalNames
  noExternalCalls : ∀ caller,
    (∀ edge ∈ graph.edges, edge.caller = caller → edge.callee ≠ externalName) →
      graph.externalCalls caller = Tally.empty

theorem normalize_normalize (graph : CallGraph) : graph.normalize.normalize = graph.normalize := by
  simp only [normalize, Sorted.sort_sort GraphNode.precedes_total GraphNode.precedes_trans,
    Sorted.sort_sort GraphEdge.precedes_total GraphEdge.precedes_trans]

/-- The nodes of a graph that was built are in order, whatever the names of the functions. -/
theorem pairwise_nodes (records : List FunctionRecord) :
    (build records).nodes.Pairwise (fun first second =>
      first.external = false ∧ (second.external = false → first.name < second.name)) := by
  have inside : ∀ node ∈ (build records).functions, node.external = false := by
    rw [functions_build]
    exact fun node member => (exists_of_mem_functionNodes member).1
  have functions : (build records).functions.Pairwise (fun first second =>
      first.external = false ∧ (second.external = false → first.name < second.name)) := by
    have names := pairwise_definedNames records
    rw [← map_name_functions, List.pairwise_map] at names
    exact names.imp_of_mem (fun isFirst _ less => ⟨inside _ isFirst, fun _ => less⟩)
  rw [nodes_build, ← functions_build]
  split
  · refine List.pairwise_append.2 ⟨functions, List.pairwise_singleton .., ?_⟩
    intro node isFunction last isLast
    obtain rfl := List.mem_singleton.1 isLast
    exact ⟨inside node isFunction, fun inside => absurd inside.symm Bool.false_ne_true⟩
  · exact functions

theorem build_inOrder {records : List FunctionRecord} (named : ¬ Defined records externalName) :
    (build records).InOrder where
  nodes := pairwise_nodes records
  names := nodup_map_name_nodes named
  edges := pairwise_edges records

variable {graph : CallGraph}

theorem mem_of_node? {name : String} {node : GraphNode} (found : graph.node? name = some node) :
    node ∈ graph.nodes ∧ node.name = name := by
  have last : graph.nodes.getLast?.filter (fun last => last.external && last.name == name) =
      some node → node ∈ graph.nodes ∧ node.name = name := by
    intro isLast
    obtain ⟨isLast, passes⟩ := Option.filter_eq_some_iff.1 isLast
    exact ⟨List.mem_of_getLast? isLast, by simpa using (Bool.and_eq_true_iff.1 passes).2⟩
  simp only [node?] at found
  split at found
  · rename_i first here
    split at found
    · rename_i same
      obtain rfl := Option.some.inj found
      exact ⟨List.mem_of_getElem? here, beq_iff_eq.1 same⟩
    · exact last found
  · exact last found

section Nodes

variable (nodes : graph.nodes.Pairwise (fun first second =>
  first.external = false ∧ (second.external = false → first.name < second.name)))
include nodes

/-- The functions with smaller names than a given one come before all other nodes. -/
theorem pairwise_smaller (name : String) :
    graph.nodes.Pairwise (fun first second =>
      (!second.external && decide (second.name < name)) = true →
        (!first.external && decide (first.name < name)) = true) := by
  refine nodes.imp (fun {first second} before passes => ?_)
  simp only [Bool.and_eq_true, Bool.not_eq_true', decide_eq_true_eq] at passes ⊢
  exact ⟨before.1, String.lt_trans (before.2 passes.1) passes.2⟩

theorem find?_node {node : GraphNode} (member : node ∈ graph.nodes) :
    ∃ first, graph.nodes.find? (fun other => !(!other.external && other.name < node.name)) =
      some first ∧ (first = node ∨ node.external = true) := by
  have fails : (!(!node.external && decide (node.name < node.name))) = true := by simp
  have isSome : (graph.nodes.find? (fun other =>
      !(!other.external && decide (other.name < node.name)))).isSome = true :=
    List.find?_isSome.2 ⟨node, member, fails⟩
  obtain ⟨first, found⟩ := Option.isSome_iff_exists.1 isSome
  refine ⟨first, found, ?_⟩
  -- The node fails the test as well, so it is what was found or comes later.
  obtain ⟨isFirst, front, back, split, passes⟩ := List.find?_eq_some_iff_append.1 found
  rw [split, List.mem_append, List.mem_cons] at member
  rcases member with early | here | late
  · exact absurd fails (by simpa using passes node early)
  · exact Or.inl here.symm
  · rw [split] at nodes
    have before := (List.pairwise_cons.1 (List.pairwise_append.1 nodes).2.1).1 node late
    refine Or.inr (Bool.not_eq_false _ ▸ fun inside => ?_)
    simp [before.1, before.2 inside] at isFirst

theorem node?_of_function {node : GraphNode} (member : node ∈ graph.nodes)
    (inside : node.external = false) : graph.node? node.name = some node := by
  obtain ⟨first, found, here⟩ := find?_node nodes member
  have isNode : first = node :=
    here.resolve_right (fun external => Bool.false_ne_true (inside.symm.trans external))
  simp only [node?, Sorted.getElem?_partitionPoint (pairwise_smaller nodes node.name), found]
  simp [isNode]

end Nodes

/-- Edges in the order of their callers are found by halving. -/
theorem edgesFrom_of_pairwise
    (callers : graph.edges.Pairwise (fun first second => first.caller ≤ second.caller))
    (caller : String) :
    graph.edgesFrom caller = graph.edges.filter (fun edge => edge.caller == caller) := by
  have below : graph.edges.Pairwise (fun first second =>
      decide (second.caller < caller) = true → decide (first.caller < caller) = true) :=
    callers.imp (fun before less =>
      decide_eq_true (lt_of_le_of_lt before (of_decide_eq_true less)))
  have within : graph.edges.Pairwise (fun first second =>
      decide (second.caller ≤ caller) = true → decide (first.caller ≤ caller) = true) :=
    callers.imp (fun before less => decide_eq_true (le_trans before (of_decide_eq_true less)))
  have between := Sorted.drop_take_partitionPoint below within
    (fun edge less => decide_eq_true (le_of_lt (of_decide_eq_true less)))
  rw [edgesFrom, between]
  refine List.filter_congr (fun edge _ => ?_)
  rw [Bool.eq_iff_iff, beq_iff_eq, Bool.and_eq_true, Bool.not_eq_true', decide_eq_true_eq,
    decide_eq_false_iff_not]
  exact eq_iff_le_not_lt.symm

namespace InOrder

variable (inOrder : graph.InOrder)
include inOrder

theorem eq_of_name {first second : GraphNode} (isFirst : first ∈ graph.nodes)
    (isSecond : second ∈ graph.nodes) (same : first.name = second.name) : first = second :=
  List.inj_on_of_nodup_map inOrder.names isFirst isSecond same

/-- Order is restored to shuffled nodes and edges. -/
theorem normalize_of_perm {nodes : List GraphNode} {edges : List GraphEdge}
    (sameNodes : nodes.Perm graph.nodes) (sameEdges : edges.Perm graph.edges) :
    ({ graph with nodes, edges } : CallGraph).normalize = graph := by
  have sortedNodes : Sorted.sort GraphNode.precedes nodes = graph.nodes := by
    apply Sorted.sort_of_perm GraphNode.precedes_total GraphNode.precedes_trans sameNodes
    refine inOrder.nodes.imp (fun {first second} before => Bool.eq_false_iff.2 (fun after => ?_))
    rcases GraphNode.precedes_iff.1 after with ⟨-, external⟩ | ⟨same, less⟩
    · exact Bool.false_ne_true (before.1.symm.trans external)
    · exact String.not_lt.2 less (before.2 (same.trans before.1))
  have sortedEdges : Sorted.sort GraphEdge.precedes edges = graph.edges := by
    apply Sorted.sort_of_perm GraphEdge.precedes_total GraphEdge.precedes_trans sameEdges
    refine inOrder.edges.imp (fun {first second} before => Bool.eq_false_iff.2 (fun after => ?_))
    rcases GraphEdge.precedes_iff.1 after with less | ⟨same, less⟩ <;>
      rcases before with before | ⟨same', before⟩
    · exact String.lt_asymm less before
    · exact String.ne_of_lt less same'.symm
    · exact String.ne_of_lt before same.symm
    · exact String.not_lt.2 less before
  simp only [normalize, sortedNodes, sortedEdges]

theorem getLast?_of_external {node : GraphNode} (member : node ∈ graph.nodes)
    (external : node.external = true) : graph.nodes.getLast? = some node := by
  obtain ⟨front, back, split⟩ := List.append_of_mem member
  have nodes := inOrder.nodes
  rw [split] at nodes
  cases back with
  | nil => rw [split, List.getLast?_concat]
  | cons next back =>
    have before := (List.pairwise_cons.1 (List.pairwise_append.1 nodes).2.1).1 next
      (List.mem_cons_self ..)
    exact absurd (before.1.symm.trans external) Bool.false_ne_true

theorem node?_of_mem {node : GraphNode} (member : node ∈ graph.nodes) :
    graph.node? node.name = some node := by
  obtain ⟨first, found, here⟩ := find?_node inOrder.nodes member
  simp only [node?, Sorted.getElem?_partitionPoint (pairwise_smaller inOrder.nodes node.name), found]
  by_cases same : first.name = node.name
  · -- No two nodes have one name, so this also holds if the external node was found.
    have isFirst : first = node := inOrder.eq_of_name (List.mem_of_find?_eq_some found) member same
    simp [isFirst]
  · have external : node.external = true :=
      here.resolve_left (fun isNode => same (congrArg GraphNode.name isNode))
    simp [same, inOrder.getLast?_of_external member external, external]

theorem edgesFrom_eq (caller : String) :
    graph.edgesFrom caller = graph.edges.filter (fun edge => edge.caller == caller) :=
  edgesFrom_of_pairwise
    (inOrder.edges.imp (fun before => before.elim le_of_lt (fun same => le_of_eq same.1))) caller

theorem looksUp : graph.LooksUp := by
  have fromCaller (caller : String) (edge : GraphEdge) :
      edge ∈ graph.edgesFrom caller ↔ edge ∈ graph.edges ∧ edge.caller = caller := by
    rw [inOrder.edgesFrom_eq, List.mem_filter, beq_iff_eq]
  have sorted (caller : String) :
      (graph.edgesFrom caller).Pairwise (fun first second => first.callee < second.callee) := by
    rw [inOrder.edgesFrom_eq]
    refine (inOrder.edges.filter _).imp_of_mem (fun {first second} isFirst isSecond before => ?_)
    have firstCaller := beq_iff_eq.1 (List.mem_filter.1 isFirst).2
    have secondCaller := beq_iff_eq.1 (List.mem_filter.1 isSecond).2
    refine (before.resolve_left (fun less => ?_)).2
    exact String.ne_of_lt less (firstCaller.trans secondCaller.symm)
  constructor
  case node =>
    intro name node
    constructor
    · exact mem_of_node?
    · rintro ⟨member, rfl⟩
      exact inOrder.node?_of_mem member
  case edgesFrom => exact inOrder.edgesFrom_eq
  case sorted => exact sorted
  case callees =>
    intro caller callee
    simp only [callees, callers, List.mem_map, fromCaller, List.mem_filter, beq_iff_eq]
    grind
  case externalCalls =>
    intro edge member external
    have inCalls := (fromCaller edge.caller edge).2 ⟨member, rfl⟩
    have distinct : ((graph.edgesFrom edge.caller).map GraphEdge.callee).Nodup :=
      List.pairwise_map.2 ((sorted edge.caller).imp String.ne_of_lt)
    have found := find?_of_mem distinct inCalls
    rw [external] at found
    rw [externalCalls, found]
  case noExternalCalls =>
    intro caller noEdge
    have nothing : (graph.edgesFrom caller).find? (fun edge => edge.callee == externalName) =
        none := by
      rw [List.find?_eq_none]
      intro edge member external
      obtain ⟨isEdge, called⟩ := (fromCaller caller edge).1 member
      exact noEdge edge isEdge called (beq_iff_eq.1 external)
    rw [externalCalls, nothing]

end InOrder

/-- A graph that is built of records, none of which has the name of the external node, is restored
from its nodes and edges in any order, also when they are written and read again, and in the
restored graph everything is found. -/
theorem build_restored {records : List FunctionRecord}
    (named : ∀ record ∈ records, record.name ≠ externalName) (fits : FitWords records)
    {graph : CallGraph} (built : (build records).checked = .ok graph)
    {nodes : List GraphNode} {edges : List GraphEdge} (sameNodes : nodes.Perm graph.nodes)
    (sameEdges : edges.Perm graph.edges) :
    CallGraph.ofJson? { graph with nodes, edges : CallGraph }.toJson = some graph ∧
      { graph with nodes, edges : CallGraph }.normalize = graph ∧
      (∀ other : CallGraph, other.normalize.normalize = other.normalize) ∧
      graph.LooksUp := by
  have named : ¬ Defined records externalName := by
    rintro ⟨record, member, same⟩
    exact named record member same
  have inWords := inWords_of_checked fits built
  obtain rfl := (checked_build_iff.1 built).2.2
  have inOrder := build_inOrder named
  have restored := inOrder.normalize_of_perm sameNodes sameEdges
  have shuffled : { build records with nodes, edges : CallGraph }.InWords :=
    ⟨fun node member => inWords.nodes node (sameNodes.subset member),
      fun edge member => inWords.edges edge (sameEdges.subset member), inWords.stats⟩
  refine ⟨?_, restored, normalize_normalize, inOrder.looksUp⟩
  rw [ofJson?_toJson shuffled, restored]

/-- Nodes and edges in reverse order.  The name of the external node is smaller than the names of
the functions, but it comes last. -/
theorem build_restored_reversed :
    let calling (name : String) (callees : List String) : FunctionRecord :=
      { (default : FunctionRecord) with name, calls := Tally.ofNames callees }
    let records := [calling "main" ["helper", "exit", "abort", "abort"], calling "helper" ["util"],
      calling "util" []]
    let graph := build records
    let reversed : CallGraph :=
      { graph with nodes := graph.nodes.reverse, edges := graph.edges.reverse }
    (∀ record ∈ records, record.name ≠ externalName) ∧ FitWords records ∧
      graph.checked = .ok graph ∧
      (CallGraph.ofJson? reversed.toJson = some graph ∧ reversed.normalize = graph ∧
        (∀ graph : CallGraph, graph.normalize.normalize = graph.normalize) ∧ graph.LooksUp) ∧
      reversed.nodes.map GraphNode.name = ["<external>", "util", "main", "helper"] ∧
      graph.callees "main" = ["<external>", "helper"] ∧
      graph.callers "helper" = ["main"] ∧
      (graph.externalCalls "main").entries = [("abort", 2), ("exit", 1)] := by
  intro calling records graph reversed
  have named : ∀ record ∈ records, record.name ≠ externalName := by decide +kernel
  have fits : FitWords records := by
    have zero : 0 < wordSize := by decide +kernel
    have counts : ∀ record ∈ records, ∀ entry ∈ record.calls.entries, entry.2 < wordSize := by
      decide +kernel
    have inWords (name : String) (callees : List String)
        (counts : (calling name callees).calls.InWords) : (calling name callees).InWords :=
      ⟨zero, zero, ⟨zero, zero, zero, zero⟩, ⟨zero, zero, zero, zero⟩, counts,
        ⟨zero, zero, zero, zero, zero, zero, zero⟩⟩
    refine ⟨?_, by decide +kernel⟩
    simp only [records, List.forall_mem_cons] at counts ⊢
    exact ⟨inWords _ _ counts.1, inWords _ _ counts.2.1, inWords _ _ counts.2.2.1,
      List.forall_mem_nil _⟩
  have built : graph.checked = .ok graph := checked_build_of_fits (by decide +kernel)
  exact ⟨named, fits, built,
    build_restored named fits built (List.reverse_perm _) (List.reverse_perm _),
    by decide +kernel, by decide +kernel, by decide +kernel, by decide +kernel⟩

end CallGraph

end CSurvey
