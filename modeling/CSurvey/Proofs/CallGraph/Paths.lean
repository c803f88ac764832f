import CSurvey.Proofs.CallGraph.Cycles

/-!
# The paths of a call graph

The components of a graph hold the functions that calls connect, whatever their
direction; the external node connects nothing.  A function is recursive if a path
of one or more calls leads from it to itself: then it is in a cycle or calls itself.
-/

namespace CSurvey.CallGraph

open Relation (ReflTransGen TransGen)

/-- Calls connect two functions, whatever their direction. -/
def Connected (graph : CallGraph) : String → String → Prop :=
  ReflTransGen (fun first second => graph.Step first second ∨ graph.Step second first)

/-- The cycles, components and recursive functions of a graph are those of its paths. -/
structure FollowsPaths (graph : CallGraph) (records : List FunctionRecord) : Prop where
  sameCycle : ∀ first second, first ≠ second →
    ((∃ cycle ∈ graph.cycles, first ∈ cycle.members ∧ second ∈ cycle.members) ↔
      ReflTransGen graph.Step first second ∧ ReflTransGen graph.Step second first)
  /-- The cycles are the largest strongly connected sets of two or more names, each reported once. -/
  largest : ∀ names : Set String,
    names.Nontrivial ∧ Maximal graph.StronglyConnected names ↔
      ∃! cycle, cycle ∈ graph.cycles ∧ ∀ name, name ∈ names ↔ name ∈ cycle.members
  cycleMembers : ∀ cycle ∈ graph.cycles,
    2 ≤ cycle.members.length ∧ cycle.members.Pairwise (· < ·) ∧
      ∀ name ∈ cycle.members, Defined records name
  cycles : graph.cycles.Pairwise (fun first second => first.members < second.members)
  inCycle : ∀ node ∈ graph.nodes,
    node.inCycle = true ↔ ∃ cycle ∈ graph.cycles, node.name ∈ cycle.members
  /-- Every function is in one component, with the functions connected to it. -/
  partition : ∀ name, Defined records name →
    ∃! component, component ∈ graph.components ∧ name ∈ component.members
  connected : ∀ component ∈ graph.components, ∀ name ∈ component.members, ∀ other,
    other ∈ component.members ↔ graph.Connected name other
  componentMembers : ∀ component ∈ graph.components,
    component.members ≠ [] ∧ component.members.Pairwise (· < ·) ∧
      ∀ name ∈ component.members, Defined records name
  components : graph.components.Pairwise (fun first second => first.members < second.members)
  inside : ∀ cycle ∈ graph.cycles, ∃ component ∈ graph.components,
    ∀ name ∈ cycle.members, name ∈ component.members
  /-- A path that comes back, be it a single call, makes a component cyclic. -/
  hasCycle : ∀ component ∈ graph.components,
    component.hasCycle = true ↔ ∃ name ∈ component.members, TransGen graph.Step name name
  recursive : graph.stats.recursiveFunctions =
    {name | Defined records name ∧ TransGen graph.Step name name}.ncard

variable {records : List FunctionRecord}

/-- The calls between functions, in both directions. -/
def links (records : List FunctionRecord) : List (String × String) :=
  ((build records).edges.filter (fun edge =>
    (definedNames records).contains edge.caller &&
      (definedNames records).contains edge.callee)).flatMap (fun edge =>
        [(edge.caller, edge.callee), (edge.callee, edge.caller)])

/-- The groups of functions that calls connect. -/
def clusters (records : List FunctionRecord) : List (List String) :=
  groups (reachTable (links records) (definedNames records))

theorem components_build (records : List FunctionRecord) :
    (build records).components = (clusters records).map (fun members =>
      { members
        hasCycle := (build records).functions.any (fun node =>
          members.contains node.name && (node.inCycle || node.selfRecursive)) }) := by
  have components : (build records).components =
      findComponents (build records).nodes (build records).edges := rfl
  have names : ((build records).nodes.filter (fun node => !node.external)).map GraphNode.name =
      definedNames records := map_name_functions records
  rw [components, findComponents]
  simp only [names]
  rfl

section Named

variable (named : ¬ Defined records externalName)
include named

theorem step_iff {caller callee : String} :
    (build records).Step caller callee ↔
      ∃ edge ∈ (build records).edges, (Defined records edge.caller ∧ Defined records edge.callee) ∧
        edge.caller = caller ∧ edge.callee = callee := by
  constructor
  · intro leads
    obtain ⟨-, edge, member, rfl, rfl⟩ := id leads
    exact ⟨edge, member, leads.defined, rfl, rfl⟩
  · rintro ⟨edge, member, ⟨-, defined⟩, rfl, rfl⟩
    exact ⟨fun external => named (external ▸ defined), edge, member, rfl, rfl⟩

theorem leads_links :
    Walk.Leads (links records) =
      fun first second => (build records).Step first second ∨ (build records).Step second first := by
  funext first second
  simp only [Walk.Leads, links, step_iff named, List.mem_flatMap, List.mem_filter,
    Bool.and_eq_true, contains_definedNames, List.mem_cons, List.not_mem_nil, or_false,
    Prod.mk.injEq, eq_iff_iff]
  constructor
  · rintro ⟨edge, ⟨member, ends⟩, ⟨rfl, rfl⟩ | ⟨rfl, rfl⟩⟩
    · exact Or.inl ⟨edge, member, ends, rfl, rfl⟩
    · exact Or.inr ⟨edge, member, ends, rfl, rfl⟩
  · rintro (⟨edge, member, ends, rfl, rfl⟩ | ⟨edge, member, ends, rfl, rfl⟩)
    · exact ⟨edge, ⟨member, ends⟩, Or.inl ⟨rfl, rfl⟩⟩
    · exact ⟨edge, ⟨member, ends⟩, Or.inr ⟨rfl, rfl⟩⟩

theorem mutual_leads_links :
    Mutual (Walk.Leads (links records)) = (build records).Connected := by
  rw [leads_links named, Connected]
  exact mutual_of_symmetric (fun _ _ => Or.symm)

theorem decides_clusters :
    Decides (reachTable (links records) (definedNames records)) (build records).Connected := by
  rw [← mutual_leads_links named]
  exact decides_reachTable _ _

theorem equivalence_connected : Equivalence (build records).Connected := by
  rw [← mutual_leads_links named]
  exact Mutual.equivalence _

theorem isGroup_of_mem_components {component : Component}
    (member : component ∈ (build records).components) :
    IsGroup (build records).Connected (definedNames records) component.members := by
  rw [components_build, List.mem_map] at member
  obtain ⟨members, inClusters, rfl⟩ := member
  have isGroup := isGroup_of_mem_groups (equivalence_connected named) (decides_clusters named)
    inClusters
  rwa [map_reachTable] at isGroup

theorem mem_component_iff {component : Component}
    (member : component ∈ (build records).components) {name other : String}
    (inComponent : name ∈ component.members) :
    other ∈ component.members ↔ (build records).Connected name other := by
  have isGroup := isGroup_of_mem_components named member
  have equivalence := equivalence_connected named
  rw [isGroup.mem_iff equivalence inComponent, and_iff_right_iff_imp, mem_definedNames]
  intro connected
  rcases connected.cases_tail with rfl | ⟨middle, -, forth | back⟩
  · exact mem_definedNames.1 ((isGroup.mem_iff equivalence inComponent).1 inComponent).1
  · exact forth.defined.2
  · exact back.defined.1

theorem existsUnique_component {name : String} (defined : Defined records name) :
    ∃! component, component ∈ (build records).components ∧ name ∈ component.members := by
  have isName : name ∈ (reachTable (links records) (definedNames records)).map (·.1) := by
    rw [map_reachTable]
    exact mem_definedNames.2 defined
  obtain ⟨group, ⟨inClusters, inGroup⟩, unique⟩ :=
    existsUnique_group_of_mem (equivalence_connected named) (decides_clusters named)
      (map_reachTable ▸ pairwise_definedNames records) isName
  rw [components_build]
  refine ⟨_, ⟨List.mem_map_of_mem inClusters, inGroup⟩, ?_⟩
  rintro other ⟨alsoMember, inOther⟩
  obtain ⟨members, alsoInClusters, rfl⟩ := List.mem_map.1 alsoMember
  rw [unique members ⟨alsoInClusters, inOther⟩]

theorem pairwise_components :
    (build records).components.Pairwise (fun first second => first.members < second.members) := by
  rw [components_build]
  refine List.pairwise_map.2 ?_
  exact pairwise_groups (equivalence_connected named) (decides_clusters named)
    (map_reachTable ▸ pairwise_definedNames records)

theorem recursive_iff {node : GraphNode} (member : node ∈ (build records).functions) :
    (node.selfRecursive || node.inCycle) = true ↔
      TransGen (build records).Step node.name node.name := by
  obtain ⟨-, -, selfRecursive, inCycle, -⟩ := fields_of_mem_functions member
  have defined : Defined records node.name :=
    mem_definedNames.1 (map_name_functions records ▸ List.mem_map_of_mem member)
  have step : (build records).Step node.name node.name ↔ Calls records node.name node.name := by
    rw [Step, exists_edge, and_iff_right_iff_imp]
    exact fun _ external => named (external ▸ defined)
  rw [Bool.or_eq_true, selfRecursive, inCycle, mem_some_cycle_iff, transGen_self_iff, step]

theorem hasCycle_iff {component : Component} (member : component ∈ (build records).components) :
    component.hasCycle = true ↔
      ∃ name ∈ component.members, TransGen (build records).Step name name := by
  have isGroup := isGroup_of_mem_components named member
  rw [components_build, List.mem_map] at member
  obtain ⟨members, -, rfl⟩ := member
  simp only [List.any_eq_true, Bool.and_eq_true, List.contains_iff_mem, Bool.or_comm]
  constructor
  · rintro ⟨node, isFunction, inComponent, recursive⟩
    exact ⟨node.name, inComponent, (recursive_iff named isFunction).1 recursive⟩
  · rintro ⟨name, inComponent, path⟩
    obtain ⟨_, _, -, inOrder, -⟩ := isGroup
    have defined := inOrder.subset inComponent
    rw [← map_name_functions] at defined
    obtain ⟨node, isFunction, rfl⟩ := List.mem_map.1 defined
    exact ⟨node, isFunction, inComponent, (recursive_iff named isFunction).2 path⟩

theorem recursiveFunctions_eq :
    (build records).stats.recursiveFunctions =
      {name | Defined records name ∧ TransGen (build records).Step name name}.ncard := by
  have counted : (build records).stats.recursiveFunctions =
      (build records).functions.countP (fun node => node.selfRecursive || node.inCycle) := rfl
  rw [counted, List.countP_eq_length_filter]
  refine (ncard_eq_length GraphNode.name ?_ ?_).symm
  · refine (nodup_definedNames records).sublist ?_
    rw [← map_name_functions]
    exact List.filter_sublist.map _
  · intro name
    simp only [Set.mem_ofPred_eq, List.mem_map, List.mem_filter, Defined]
    rw [← mem_definedNames, ← map_name_functions]
    constructor
    · rintro ⟨defined, path⟩
      obtain ⟨node, isFunction, rfl⟩ := List.mem_map.1 defined
      exact ⟨node, ⟨isFunction, (recursive_iff named isFunction).2 path⟩, rfl⟩
    · rintro ⟨node, ⟨isFunction, recursive⟩, rfl⟩
      exact ⟨List.mem_map_of_mem isFunction, (recursive_iff named isFunction).1 recursive⟩

theorem inCycle_iff {node : GraphNode} (member : node ∈ (build records).nodes) :
    node.inCycle = true ↔ ∃ cycle ∈ (build records).cycles, node.name ∈ cycle.members := by
  rcases mem_nodes.1 member with isFunction | ⟨-, rfl⟩
  · exact (fields_of_mem_functions isFunction).2.2.2.1
  · refine iff_of_false Bool.false_ne_true ?_
    rintro ⟨cycle, isCycle, inCycle⟩
    obtain ⟨_, _, -, inOrder, -⟩ := (isGroup_of_mem_cycles isCycle).1
    exact named (mem_definedNames.1 (inOrder.subset inCycle))

/-- Functions that reach each other are connected. -/
theorem exists_component_of_mem_cycles {cycle : Cycle} (member : cycle ∈ (build records).cycles) :
    ∃ component ∈ (build records).components, ∀ name ∈ cycle.members,
      name ∈ component.members := by
  obtain ⟨first, rest, members, inOrder, -⟩ := (isGroup_of_mem_cycles member).1
  have isFirst : first ∈ cycle.members := members ▸ List.mem_cons_self ..
  obtain ⟨component, ⟨isComponent, inComponent⟩, -⟩ :=
    existsUnique_component named (mem_definedNames.1 (inOrder.subset isFirst))
  refine ⟨component, isComponent, fun name inCycle => ?_⟩
  have path := ((mem_cycle_iff member isFirst).1 inCycle).1
  exact (mem_component_iff named isComponent inComponent).2
    (path.mono (fun _ _ => Or.inl) _ _)

end Named

/-- The cycles, components and recursive functions of a graph without a function of the name of the
external node are those of its paths. -/
theorem build_followsPaths {records : List FunctionRecord}
    (named : ∀ record ∈ records, record.name ≠ externalName) :
    (build records).FollowsPaths records := by
  have named : ¬ Defined records externalName := by
    rintro ⟨record, member, same⟩
    exact named record member same
  constructor
  case sameCycle => exact fun first second different => sameCycle_iff different
  case largest => exact largest_iff
  case cycleMembers =>
    intro cycle member
    obtain ⟨isGroup, several⟩ := isGroup_of_mem_cycles member
    obtain ⟨_, _, -, inOrder, -⟩ := id isGroup
    exact ⟨several, isGroup.pairwise (pairwise_definedNames records),
      fun name inCycle => mem_definedNames.1 (inOrder.subset inCycle)⟩
  case cycles => exact pairwise_cycles records
  case inCycle => exact fun node member => inCycle_iff named member
  case partition => exact fun name defined => existsUnique_component named defined
  case connected =>
    exact fun component member name inComponent other => mem_component_iff named member inComponent
  case componentMembers =>
    intro component member
    have isGroup := isGroup_of_mem_components named member
    obtain ⟨first, rest, members, inOrder, -⟩ := id isGroup
    exact ⟨members ▸ List.cons_ne_nil first rest, isGroup.pairwise (pairwise_definedNames records),
      fun name inComponent => mem_definedNames.1 (inOrder.subset inComponent)⟩
  case components => exact pairwise_components named
  case inside => exact fun cycle member => exists_component_of_mem_cycles named member
  case hasCycle => exact fun component member => hasCycle_iff named member
  case recursive => exact recursiveFunctions_eq named

/-- Two functions that call each other, one that calls itself, and two that only share a callee
without a definition. -/
theorem build_followsPaths_two_ways :
    let calling (name : String) (callees : List String) : FunctionRecord :=
      { (default : FunctionRecord) with name, calls := Tally.ofNames callees }
    let records := [calling "odd" ["even", "puts"], calling "even" ["odd"],
      calling "main" ["odd"], calling "walk" ["walk", "puts"], calling "idle" ["puts"]]
    (∀ record ∈ records, record.name ≠ externalName) ∧ (build records).FollowsPaths records ∧
      (build records).cycles = [⟨["even", "odd"]⟩] ∧
      (build records).components =
        [⟨["even", "main", "odd"], true⟩, ⟨["idle"], false⟩, ⟨["walk"], true⟩] ∧
      (build records).stats.recursiveFunctions = 3 := by
  intro calling records
  have named : ∀ record ∈ records, record.name ≠ externalName := by decide +kernel
  exact ⟨named, build_followsPaths named, by decide +kernel, by decide +kernel, by decide +kernel⟩

end CSurvey.CallGraph
