import CSurvey.Proofs.CallGraph.Cycles
import CSurvey.Proofs.CallGraph.Lookup
import CSurvey.Proofs.Walk.Distance
import CSurvey.Proofs.Walk.Queue

/-!
# The levels of a call graph

A walk over a graph follows the calls to functions from those of the given names that
the graph holds.  The graph may be edited, with calls of names that it does not hold;
a walk meets them like others.  How deep the calls of a graph go is how far a function
can be from the functions that nothing else calls.
-/

namespace CSurvey.CallGraph

open Relation (ReflTransGen)
open Walk (IsDistance)

/-- A graph is built from records, or it is read. -/
inductive Obtained : CallGraph → Prop
  | built (records : List FunctionRecord) : Obtained (build records)
  | read {value : Json} {graph : CallGraph} (written : CallGraph.ofJson? value = some graph) :
      Obtained graph

/-- Walks from some names go to the functions that shortest paths of calls lead to. -/
structure WalksShortest (graph : CallGraph) (roots : List String) : Prop where
  /-- A walk goes on from a function to those of its callees that are not external. -/
  onward : ∀ caller, Walk.successors graph.steps caller =
    (graph.callees caller).filter (fun callee => callee != externalName)
  calls : ∀ caller callee,
    callee ∈ Walk.successors graph.steps caller ↔ graph.Step caller callee
  /-- Names that wait in a queue are taken one after the other until none is left. -/
  ends : Walk.visitFrom graph.steps (roots.filter graph.contains) = graph.levels roots
  once : ((graph.levels roots).map (·.1)).Nodup
  domain : ∀ name, name ∈ (graph.levels roots).map (·.1) ↔
    ∃ root ∈ roots, graph.contains root = true ∧ ReflTransGen graph.Step root name
  level : ∀ name level, (name, level) ∈ graph.levels roots ↔
    IsDistance graph.Step {root | root ∈ roots ∧ graph.contains root = true} name level
  reachable : Walk.reachable graph.steps (roots.filter graph.contains) =
    (graph.levels roots).map (·.1)
  depth : IsGreatest {level | level = 0 ∨ ∃ name, (name, level) ∈ graph.levels roots}
    (graph.depth roots)

section Walks

variable {graph : CallGraph} {roots : List String}

theorem leads_steps (graph : CallGraph) : Walk.Leads graph.steps = graph.Step := by
  funext caller callee
  simp only [Walk.Leads, steps, Step, List.mem_map, List.mem_filter, bne_iff_ne, Prod.mk.injEq,
    eq_iff_iff]
  constructor
  · rintro ⟨edge, ⟨member, inside⟩, rfl, rfl⟩
    exact ⟨inside, edge, member, rfl, rfl⟩
  · rintro ⟨inside, edge, member, rfl, rfl⟩
    exact ⟨edge, ⟨member, inside⟩, rfl, rfl⟩

theorem mem_levels {name : String} {level : Nat} :
    (name, level) ∈ graph.levels roots ↔
      IsDistance graph.Step {root | root ∈ roots ∧ graph.contains root = true} name level := by
  rw [levels, Walk.mem_levels, leads_steps]
  simp only [List.mem_filter]

theorem successors_steps
    (callers : graph.edges.Pairwise (fun first second => first.caller ≤ second.caller))
    (caller : String) : Walk.successors graph.steps caller =
      (graph.callees caller).filter (fun callee => callee != externalName) := by
  rw [Walk.successors, steps, callees, edgesFrom_of_pairwise callers, List.filter_map,
    List.filter_map, List.map_map, List.filter_filter, List.filter_filter]
  simp only [Function.comp_def, Bool.and_comm]

theorem walksShortest_of_pairwise
    (callers : graph.edges.Pairwise (fun first second => first.caller ≤ second.caller))
    (roots : List String) : graph.WalksShortest roots where
  onward := successors_steps callers
  calls caller callee := by rw [Walk.mem_successors, leads_steps]
  ends := Walk.visitFrom_eq_levels _ _
  once := Walk.nodup_reachable _ _
  domain name := by
    have reached : name ∈ (graph.levels roots).map (·.1) ↔ _ := Walk.mem_reachable
    simpa only [List.mem_filter, leads_steps, and_assoc] using reached
  level name level := mem_levels
  reachable := rfl
  depth := Walk.isGreatest_depth _

theorem exists_normalize_of_ofJson? {value : Json}
    (written : CallGraph.ofJson? value = some graph) : ∃ raw : CallGraph, graph = raw.normalize := by
  simp only [CallGraph.ofJson?, Option.bind_eq_bind, Option.pure_def] at written
  obtain ⟨slots, -, written⟩ := Option.bind_eq_some_iff.1 written
  split at written
  · obtain ⟨nodes, -, written⟩ := Option.bind_eq_some_iff.1 written
    obtain ⟨edges, -, written⟩ := Option.bind_eq_some_iff.1 written
    obtain ⟨cycles, -, written⟩ := Option.bind_eq_some_iff.1 written
    obtain ⟨components, -, written⟩ := Option.bind_eq_some_iff.1 written
    obtain ⟨critical, -, written⟩ := Option.bind_eq_some_iff.1 written
    obtain ⟨stats, -, written⟩ := Option.bind_eq_some_iff.1 written
    exact ⟨_, (Option.some.inj written).symm⟩
  · cases written

theorem Obtained.pairwise_callers (obtained : Obtained graph) :
    graph.edges.Pairwise (fun first second => first.caller ≤ second.caller) := by
  cases obtained with
  | built records =>
    exact (pairwise_edges records).imp
      (fun before => before.elim le_of_lt (fun same => le_of_eq same.1))
  | read written =>
    obtain ⟨raw, rfl⟩ := exists_normalize_of_ofJson? written
    refine (Sorted.sort_pairwise GraphEdge.precedes_total GraphEdge.precedes_trans raw.edges).imp ?_
    intro first second before
    exact (GraphEdge.precedes_iff.1 before).elim le_of_lt (fun same => le_of_eq same.1)

end Walks

section Built

variable {records : List FunctionRecord} {name : String}

theorem mem_roots {graph : CallGraph} :
    name ∈ graph.roots ↔ ∃ node ∈ graph.functions, node.name = name ∧ node.fanIn = 0 := by
  simp only [roots, List.mem_map, List.mem_filter, beq_iff_eq]
  grind

theorem contains_of_mem_functions {node : GraphNode}
    (member : node ∈ (build records).functions) :
    (build records).contains node.name = true ↔ node.name ≠ externalName := by
  obtain ⟨isNode, inside⟩ := List.mem_filter.1 member
  rw [Bool.not_eq_true'] at inside
  have found := node?_of_function (pairwise_nodes records) isNode inside
  simp [contains, found]

/-- The starts of a walk from the functions that nothing else calls. -/
theorem mem_starts :
    name ∈ (build records).roots ∧ (build records).contains name = true ↔
      name ≠ externalName ∧
        ∃ node ∈ (build records).functions, node.name = name ∧ node.fanIn = 0 := by
  rw [mem_roots]
  constructor
  · rintro ⟨⟨node, member, rfl, isRoot⟩, held⟩
    exact ⟨(contains_of_mem_functions member).1 held, node, member, rfl, isRoot⟩
  · rintro ⟨inside, node, member, rfl, isRoot⟩
    exact ⟨⟨node, member, rfl, isRoot⟩, (contains_of_mem_functions member).2 inside⟩

theorem exists_function_of_isDistance {starts : Set String} {distance : Nat}
    (functions : ∀ start ∈ starts, ∃ node ∈ (build records).functions, node.name = start)
    (far : IsDistance (build records).Step starts name distance) :
    ∃ node ∈ (build records).functions, node.name = name := by
  obtain ⟨⟨root, isRoot, path⟩, -⟩ := far
  cases path with
  | here => exact functions _ isRoot
  | onward before leads =>
    have defined := mem_definedNames.2 leads.defined.2
    rwa [← map_name_functions, List.mem_map] at defined

/-- The calls of a graph go as deep as a function can be from the functions that nothing else calls,
those with the name of the external node left out. -/
theorem isGreatest_maxCallDepth (records : List FunctionRecord) :
    IsGreatest {depth | depth = 0 ∨ ∃ node ∈ (build records).functions,
        IsDistance (build records).Step
          {start | start ≠ externalName ∧
            ∃ root ∈ (build records).functions, root.name = start ∧ root.fanIn = 0}
          node.name depth}
      (build records).stats.maxCallDepth := by
  have starts : {root | root ∈ (build records).roots ∧ (build records).contains root = true} =
      {start | start ≠ externalName ∧
        ∃ root ∈ (build records).functions, root.name = start ∧ root.fanIn = 0} := by
    ext name
    exact mem_starts
  have largest : IsGreatest _ (build records).stats.maxCallDepth :=
    Walk.isGreatest_depth ((build records).levels (build records).roots)
  simp only [mem_levels, starts] at largest
  refine ⟨largest.1.imp_right ?_, fun depth far => largest.2 (far.imp_right ?_)⟩
  · rintro ⟨name, far⟩
    obtain ⟨node, member, rfl⟩ := exists_function_of_isDistance
      (fun start isStart => by
        obtain ⟨-, root, member, rfl, -⟩ := isStart
        exact ⟨root, member, rfl⟩) far
    exact ⟨node, member, far⟩
  · rintro ⟨node, -, far⟩
    exact ⟨node.name, far⟩

end Built

/-- Walks over a graph go exactly to the functions that paths of calls lead to, each at the length
of a shortest such path, and the calls of a graph that was built go as deep as a function can be from
the functions that nothing else calls and that do not have the name of the external node. -/
theorem walks_are_shortest :
    (∀ (graph : CallGraph) (roots : List String), Obtained graph → graph.WalksShortest roots) ∧
      ∀ records : List FunctionRecord,
        IsGreatest {depth | depth = 0 ∨ ∃ node ∈ (build records).functions,
            IsDistance (build records).Step
              {start | start ≠ externalName ∧
                ∃ root ∈ (build records).functions, root.name = start ∧ root.fanIn = 0}
              node.name depth}
          (build records).stats.maxCallDepth :=
  ⟨fun _ roots obtained => walksShortest_of_pairwise obtained.pairwise_callers roots,
    isGreatest_maxCallDepth⟩

/-- An edited graph: its calls are not in order, one stands twice, and some are of names that are
not in the graph.  Such a name is no start of a walk, but a walk goes through it. -/
theorem walks_are_shortest_edited :
    let node (name : String) : GraphNode := { (default : GraphNode) with name }
    let call (caller callee : String) : GraphEdge := ⟨caller, callee, 1, Tally.empty⟩
    let raw : CallGraph :=
      { (default : CallGraph) with
        nodes := [node "main", node "loop", node "deep"]
        edges := [call "main" "loop", call "main" "gone", call "loop" "main", call "gone" "deep",
          call "main" "loop", call "loop" "<external>"] }
    let graph := raw.normalize
    Obtained graph ∧ graph.WalksShortest ["gone", "loop", "loop"] ∧
      graph.levels ["gone", "loop", "loop"] =
        [("loop", 0), ("main", 1), ("gone", 2), ("deep", 3)] := by
  intro node call raw graph
  have fits : raw.InWords := by
    have zero : 0 < wordSize := by decide +kernel
    have one : 1 < wordSize := by decide +kernel
    have nodes (name : String) : (node name).InWords := ⟨zero, zero, zero, zero, zero, zero⟩
    have edges (caller callee : String) : (call caller callee).InWords :=
      ⟨one, List.forall_mem_nil _⟩
    refine ⟨?_, ?_, ⟨zero, zero, zero, zero, zero, zero, zero, zero, zero, zero⟩⟩
    · simp only [raw, List.forall_mem_cons]
      exact ⟨nodes _, nodes _, nodes _, List.forall_mem_nil _⟩
    · simp only [raw, List.forall_mem_cons]
      exact ⟨edges .., edges .., edges .., edges .., edges .., edges .., List.forall_mem_nil _⟩
  have obtained : Obtained graph := .read (CallGraph.ofJson?_toJson fits)
  exact ⟨obtained, walks_are_shortest.1 graph _ obtained, by decide +kernel⟩

/-- A function with the name of the external node that nothing calls, and one that it calls. -/
theorem maxCallDepth_skips_externalName :
    let calling (name : String) (callees : List String) : FunctionRecord :=
      { (default : FunctionRecord) with name, calls := Tally.ofNames callees }
    let records := [calling externalName ["helper"], calling "helper" []]
    ¬ IsGreatest {depth | depth = 0 ∨ ∃ node ∈ (build records).functions,
          IsDistance (build records).Step
            {start | ∃ root ∈ (build records).functions, root.name = start ∧ root.fanIn = 0}
            node.name depth}
        (build records).stats.maxCallDepth := by
  intro calling records largest
  have flat : (build records).stats.maxCallDepth = 0 := by decide +kernel
  have isStart : ∃ root ∈ (build records).functions, root.name = externalName ∧ root.fanIn = 0 := by
    decide +kernel
  have calls : (build records).Step externalName "helper" := ⟨by decide +kernel, by decide +kernel⟩
  have notStart : ¬ ∃ root ∈ (build records).functions, root.name = "helper" ∧ root.fanIn = 0 := by
    decide +kernel
  have isFunction : ∃ node ∈ (build records).functions, node.name = "helper" := by
    decide +kernel
  obtain ⟨node, member, named⟩ := isFunction
  have far : IsDistance (build records).Step
      {start | ∃ root ∈ (build records).functions, root.name = start ∧ root.fanIn = 0}
      node.name 1 := by
    rw [named]
    refine ⟨⟨externalName, isStart, .onward .here calls⟩, ?_⟩
    rintro length ⟨root, isRoot, path⟩
    cases path with
    | here => exact absurd isRoot notStart
    | onward => exact Nat.le_add_left ..
  have bound := largest.2 (Or.inr ⟨node, member, far⟩)
  rw [flat] at bound
  cases bound

end CSurvey.CallGraph
