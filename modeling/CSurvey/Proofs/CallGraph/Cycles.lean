import CSurvey.Proofs.CallGraph.Accounts
import CSurvey.Proofs.CallGraph.Groups
import Mathlib.Order.Minimal

/-!
# The cycles of a call graph

Paths of calls lead from functions to functions.  The cycles of a graph are its
largest sets of two or more functions between any two of which paths lead.  The
calls of a function to itself are left out, which changes no set.
-/

namespace CSurvey.CallGraph

open Relation (ReflTransGen TransGen)

/-- A call from one function to another one or to itself. -/
def Step (graph : CallGraph) (caller callee : String) : Prop :=
  callee ≠ externalName ∧ ∃ edge ∈ graph.edges, edge.caller = caller ∧ edge.callee = callee

/-- A path leads from any of the names to any other. -/
def StronglyConnected (graph : CallGraph) (names : Set String) : Prop :=
  ∀ first ∈ names, ∀ second ∈ names, ReflTransGen graph.Step first second

section Relation

variable {step : String → String → Prop} {first second : String}

/-- Steps that stay where they are can be left out of a path. -/
theorem reflTransGen_and_ne :
    ReflTransGen (fun source target => step source target ∧ source ≠ target) first second ↔
      ReflTransGen step first second := by
  constructor
  · exact fun path => path.mono (fun _ _ leads => leads.1) _ _
  · intro path
    induction path with
    | refl => exact .refl
    | @tail middle last _ leads ih =>
      by_cases stays : middle = last
      · exact stays ▸ ih
      · exact ih.tail ⟨leads, stays⟩

theorem mutual_and_ne :
    Mutual (fun source target => step source target ∧ source ≠ target) = Mutual step := by
  funext first second
  rw [Mutual, Mutual, reflTransGen_and_ne, reflTransGen_and_ne]

/-- If steps can be taken back, paths lead both ways. -/
theorem mutual_of_symmetric (symmetric : ∀ source target, step source target → step target source) :
    Mutual step = ReflTransGen step := by
  funext first second
  rw [Mutual, eq_iff_iff, and_iff_left_iff_imp]
  intro path
  induction path with
  | refl => exact .refl
  | tail _ leads ih => exact ih.head (symmetric _ _ leads)

/-- A path that comes back is one step, or another node lies on it. -/
theorem transGen_self_iff :
    TransGen step first first ↔
      step first first ∨ ∃ other, other ≠ first ∧ Mutual step first other := by
  constructor
  · intro path
    obtain ⟨next, leads, back⟩ := TransGen.head'_iff.1 path
    by_cases stays : next = first
    · exact Or.inl (stays ▸ leads)
    · exact Or.inr ⟨next, stays, .single leads, back⟩
  · rintro (leads | ⟨other, different, path, back⟩)
    · exact .single leads
    · exact ((Relation.reflTransGen_iff_eq_or_transGen.1 path).resolve_left different).trans_left back

end Relation

/-- The calls that the cycles are made of. -/
def cycleSteps (graph : CallGraph) : List (String × String) :=
  (graph.edges.filter (fun edge =>
    edge.callee != externalName && edge.caller != edge.callee)).map
      (fun edge => (edge.caller, edge.callee))

theorem leads_cycleSteps (graph : CallGraph) :
    Walk.Leads graph.cycleSteps = fun caller callee => graph.Step caller callee ∧ caller ≠ callee := by
  funext caller callee
  simp only [Walk.Leads, cycleSteps, Step, List.mem_map, List.mem_filter, Bool.and_eq_true,
    bne_iff_ne, eq_iff_iff, Prod.mk.injEq]
  constructor
  · rintro ⟨edge, ⟨member, inside, different⟩, rfl, rfl⟩
    exact ⟨⟨inside, edge, member, rfl, rfl⟩, different⟩
  · rintro ⟨⟨inside, edge, member, rfl, rfl⟩, different⟩
    exact ⟨edge, ⟨member, inside, different⟩, rfl, rfl⟩

variable {records : List FunctionRecord}

section Cycles

def classes (records : List FunctionRecord) : List (List String) :=
  groups (reachTable (build records).cycleSteps (definedNames records))

theorem cycles_build (records : List FunctionRecord) :
    (build records).cycles =
      ((classes records).filter (fun group => 2 ≤ group.length)).map Cycle.mk :=
  rfl

theorem decides_classes (records : List FunctionRecord) :
    Decides (reachTable (build records).cycleSteps (definedNames records))
      (Mutual (build records).Step) := by
  have decides := decides_reachTable (build records).cycleSteps (definedNames records)
  rwa [leads_cycleSteps, mutual_and_ne] at decides

theorem isGroup_of_mem_cycles {cycle : Cycle} (member : cycle ∈ (build records).cycles) :
    IsGroup (Mutual (build records).Step) (definedNames records) cycle.members ∧
      2 ≤ cycle.members.length := by
  rw [cycles_build, List.mem_map] at member
  obtain ⟨group, isCycle, rfl⟩ := member
  obtain ⟨inClasses, several⟩ := List.mem_filter.1 isCycle
  have isGroup := isGroup_of_mem_groups (Mutual.equivalence _) (decides_classes records) inClasses
  rw [map_reachTable] at isGroup
  exact ⟨isGroup, of_decide_eq_true several⟩

theorem Step.defined {caller callee : String} (leads : (build records).Step caller callee) :
    Defined records caller ∧ Defined records callee := by
  obtain ⟨inside, ends⟩ := leads
  have calls := exists_edge.1 ends
  obtain ⟨_, makes, -⟩ := id calls
  exact ⟨makes.defined, (defined_or_externalName calls).resolve_right inside⟩

/-- Only functions can be reached from another name and reach it. -/
theorem defined_of_mutual {first second : String} (different : first ≠ second)
    (both : Mutual (build records).Step first second) : Defined records second := by
  rcases both.1.cases_tail with same | ⟨middle, -, leads⟩
  · exact absurd same.symm different
  · exact leads.defined.2

theorem mem_cycle_iff {cycle : Cycle} (member : cycle ∈ (build records).cycles)
    {name other : String} (inCycle : name ∈ cycle.members) :
    other ∈ cycle.members ↔ Mutual (build records).Step name other := by
  have isGroup := (isGroup_of_mem_cycles member).1
  have equivalence := Mutual.equivalence (build records).Step
  rw [isGroup.mem_iff equivalence inCycle, and_iff_right_iff_imp, mem_definedNames]
  intro both
  by_cases different : name = other
  · exact different ▸ mem_definedNames.1 ((isGroup.mem_iff equivalence inCycle).1 inCycle).1
  · exact defined_of_mutual different both

theorem sameCycle_iff {first second : String} (different : first ≠ second) :
    (∃ cycle ∈ (build records).cycles, first ∈ cycle.members ∧ second ∈ cycle.members) ↔
      Mutual (build records).Step first second := by
  constructor
  · rintro ⟨cycle, member, isFirst, isSecond⟩
    exact (mem_cycle_iff member isFirst).1 isSecond
  · intro both
    have equivalence := Mutual.equivalence (build records).Step
    have isName : first ∈ (reachTable (build records).cycleSteps (definedNames records)).map
        (·.1) := by
      rw [map_reachTable]
      exact mem_definedNames.2 (defined_of_mutual different.symm (equivalence.symm both))
    obtain ⟨group, inClasses, inGroup⟩ :=
      exists_group_of_mem equivalence (decides_classes records) isName
    have isGroup := isGroup_of_mem_groups equivalence (decides_classes records) inClasses
    rw [map_reachTable] at isGroup
    have alsoInGroup : second ∈ group :=
      (isGroup.mem_iff equivalence inGroup).2
        ⟨mem_definedNames.2 (defined_of_mutual different both), both⟩
    refine ⟨⟨group⟩, ?_, inGroup, alsoInGroup⟩
    rw [cycles_build]
    refine List.mem_map_of_mem (List.mem_filter.2 ⟨inClasses, decide_eq_true ?_⟩)
    -- A group of one name cannot hold two different names.
    match group, inGroup, alsoInGroup with
    | [only], isFirst, isSecond =>
      exact absurd ((List.mem_singleton.1 isFirst).trans (List.mem_singleton.1 isSecond).symm)
        different
    | _ :: _ :: _, _, _ => exact Nat.le_add_left ..

/-- Two different names are not both the same. -/
theorem exists_mem_ne {names : List String} (several : 2 ≤ names.length) (distinct : names.Nodup)
    (name : String) : ∃ other ∈ names, other ≠ name := by
  match names, several, distinct with
  | first :: second :: _, _, distinct =>
    have different : first ≠ second := (List.nodup_cons.1 distinct).1 ∘ (· ▸ List.mem_cons_self ..)
    by_cases isFirst : first = name
    · exact ⟨second, by simp, fun same => different (isFirst.trans same.symm)⟩
    · exact ⟨first, by simp, isFirst⟩

/-- The names in cycles are those that reach another one and are reached from it. -/
theorem mem_some_cycle_iff {name : String} :
    (∃ cycle ∈ (build records).cycles, name ∈ cycle.members) ↔
      ∃ other, other ≠ name ∧ Mutual (build records).Step name other := by
  constructor
  · rintro ⟨cycle, member, inCycle⟩
    obtain ⟨isGroup, several⟩ := isGroup_of_mem_cycles member
    have distinct := (isGroup.pairwise (pairwise_definedNames records)).imp String.ne_of_lt
    obtain ⟨other, isOther, different⟩ := exists_mem_ne several distinct name
    exact ⟨other, different, (mem_cycle_iff member inCycle).1 isOther⟩
  · rintro ⟨other, different, both⟩
    obtain ⟨cycle, member, inCycle, -⟩ := (sameCycle_iff different.symm).2 both
    exact ⟨cycle, member, inCycle⟩

theorem pairwise_cycles (records : List FunctionRecord) :
    (build records).cycles.Pairwise (fun first second => first.members < second.members) := by
  rw [cycles_build]
  refine List.pairwise_map.2 (List.Pairwise.filter _ ?_)
  refine pairwise_groups (Mutual.equivalence _) (decides_classes records) ?_
  rw [map_reachTable]
  exact pairwise_definedNames records

/-- The names of a cycle cannot be more without losing that they all reach each other. -/
theorem maximal_cycle {cycle : Cycle} (member : cycle ∈ (build records).cycles) :
    Maximal (build records).StronglyConnected {name | name ∈ cycle.members} := by
  constructor
  · intro first isFirst second isSecond
    exact ((mem_cycle_iff member isFirst).1 isSecond).1
  · intro larger strongly included other inLarger
    obtain ⟨name, inCycle⟩ : ∃ name, name ∈ cycle.members :=
      List.exists_mem_of_length_pos
        (Nat.lt_of_lt_of_le Nat.two_pos (isGroup_of_mem_cycles member).2)
    have inLarger' : name ∈ larger := included inCycle
    exact (mem_cycle_iff member inCycle).2
      ⟨strongly _ inLarger' _ inLarger, strongly _ inLarger _ inLarger'⟩

theorem nontrivial_cycle {cycle : Cycle} (member : cycle ∈ (build records).cycles) :
    {name | name ∈ cycle.members}.Nontrivial := by
  obtain ⟨isGroup, several⟩ := isGroup_of_mem_cycles member
  have distinct := (isGroup.pairwise (pairwise_definedNames records)).imp String.ne_of_lt
  obtain ⟨name, inCycle⟩ := List.exists_mem_of_length_pos (Nat.lt_of_lt_of_le Nat.two_pos several)
  obtain ⟨other, isOther, different⟩ := exists_mem_ne several distinct name
  exact ⟨name, inCycle, other, isOther, different.symm⟩

theorem largest_iff (names : Set String) :
    names.Nontrivial ∧ Maximal (build records).StronglyConnected names ↔
      ∃! cycle, cycle ∈ (build records).cycles ∧ ∀ name, name ∈ names ↔ name ∈ cycle.members := by
  constructor
  · rintro ⟨⟨first, isFirst, second, isSecond, different⟩, maximal⟩
    have strongly := maximal.prop
    have joined : Mutual (build records).Step first second :=
      ⟨strongly _ isFirst _ isSecond, strongly _ isSecond _ isFirst⟩
    obtain ⟨cycle, member, inCycle, -⟩ := (sameCycle_iff different).2 joined
    have within : ∀ name ∈ names, name ∈ cycle.members := fun name isName =>
      (mem_cycle_iff member inCycle).2 ⟨strongly _ isFirst _ isName, strongly _ isName _ isFirst⟩
    refine ⟨cycle, ⟨member, fun name => ⟨within name, ?_⟩⟩, ?_⟩
    · exact fun isMember => maximal.le_of_ge (maximal_cycle member).prop within isMember
    · rintro other ⟨alsoMember, same⟩
      have isGroup := (isGroup_of_mem_cycles member).1
      have alsoGroup := (isGroup_of_mem_cycles alsoMember).1
      have members := alsoGroup.eq_of_mem (Mutual.equivalence _) (pairwise_definedNames records)
        isGroup ((same first).1 isFirst) inCycle
      cases other
      cases cycle
      exact congrArg Cycle.mk members
  · rintro ⟨cycle, ⟨member, same⟩, -⟩
    obtain rfl : names = {name | name ∈ cycle.members} := Set.ext same
    exact ⟨nontrivial_cycle member, maximal_cycle member⟩

end Cycles

end CSurvey.CallGraph
