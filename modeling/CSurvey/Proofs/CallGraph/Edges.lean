import CSurvey.Proofs.CallGraph.Order
import CSurvey.Proofs.Sum

/-!
# The edges of a call graph

There is an edge from a function to a node exactly if one of its definitions calls
a name that the node stands for, and it counts the calls in all definitions.  A
function stands for its own name, the external node for all names without a
definition, which its edges list with their counts.
-/

namespace CSurvey.CallGraph

/-- Some record has the name. -/
def Defined (records : List FunctionRecord) (name : String) : Prop :=
  ∃ record ∈ records, record.name = name

/-- Some definition of the caller calls the callee. -/
def Makes (records : List FunctionRecord) (caller callee : String) : Prop :=
  ∃ record ∈ records, record.name = caller ∧ callee ∈ record.calls.names

def callCount (records : List FunctionRecord) (caller callee : String) : Nat :=
  ((records.filter (fun record => record.name == caller)).map
    (fun record => record.calls.count callee)).sum

def nodeName (records : List FunctionRecord) (callee : String) : String :=
  if (definedNames records).contains callee then callee else externalName

/-- Some definition of the caller calls a name that the node stands for. -/
def Calls (records : List FunctionRecord) (caller node : String) : Prop :=
  ∃ callee, Makes records caller callee ∧ nodeName records callee = node

def recordedCalls (records : List FunctionRecord) : Nat :=
  (records.map (fun record => (record.calls.entries.map (·.2)).sum)).sum

variable {records : List FunctionRecord}

theorem contains_definedNames {name : String} :
    (definedNames records).contains name = true ↔ Defined records name := by
  rw [List.contains_iff_mem, mem_definedNames, Defined]

theorem pairwise_definedNames (records : List FunctionRecord) :
    (definedNames records).Pairwise (· < ·) :=
  List.pairwise_map.2 (Tally.ofNames (records.map FunctionRecord.name)).sorted

theorem nodup_definedNames (records : List FunctionRecord) : (definedNames records).Nodup :=
  (pairwise_definedNames records).imp String.ne_of_lt

theorem Makes.defined {caller callee : String} (makes : Makes records caller callee) :
    Defined records caller := by
  obtain ⟨record, member, named, -⟩ := makes
  exact ⟨record, member, named⟩

theorem nodeName_of_defined {callee : String} (defined : Defined records callee) :
    nodeName records callee = callee :=
  if_pos (contains_definedNames.2 defined)

theorem nodeName_of_not_defined {callee : String} (undefined : ¬ Defined records callee) :
    nodeName records callee = externalName :=
  if_neg (fun contains => undefined (contains_definedNames.1 contains))

section Calls

theorem mem_map_callsOf {caller callee : String} :
    callee ∈ (callsOf records caller).map (·.1) ↔ Makes records caller callee := by
  simp only [callsOf, Makes, Tally.names, List.mem_map, List.mem_flatMap, List.mem_filter,
    beq_iff_eq]
  constructor
  · rintro ⟨call, ⟨record, ⟨member, named⟩, inCalls⟩, rfl⟩
    exact ⟨record, member, named, call, inCalls, rfl⟩
  · rintro ⟨record, member, named, call, inCalls, rfl⟩
    exact ⟨call, ⟨record, ⟨member, named⟩, inCalls⟩, rfl⟩

theorem sum_callsOf (caller callee : String) :
    (((callsOf records caller).filter (fun call => call.1 == callee)).map (·.2)).sum =
      callCount records caller callee := by
  rw [callsOf, List.filter_flatMap, sum_map_flatMap, callCount]
  simp only [Tally.sum_filter_entries]

end Calls

/-- The calls of a caller by the nodes that stand for the callees. -/
def targets (records : List FunctionRecord) (caller : String) : Tally :=
  Tally.ofPairs ((callsOf records caller).map (fun call => (nodeName records call.1, call.2)))

/-- The calls of a caller that go to names without a definition. -/
def externals (records : List FunctionRecord) (caller : String) : Tally :=
  Tally.ofPairs ((callsOf records caller).filter
    (fun call => !(definedNames records).contains call.1))

section Targets

variable {caller callee node : String}

theorem mem_names_targets : node ∈ (targets records caller).names ↔ Calls records caller node := by
  rw [targets, Tally.mem_names_ofPairs, List.map_map, Calls]
  simp only [← mem_map_callsOf, List.mem_map, Function.comp_apply]
  constructor
  · rintro ⟨call, member, rfl⟩
    exact ⟨call.1, ⟨call, member, rfl⟩, rfl⟩
  · rintro ⟨_, ⟨call, member, rfl⟩, rfl⟩
    exact ⟨call, member, rfl⟩

theorem mem_names_externals :
    callee ∈ (externals records caller).names ↔
      ¬ Defined records callee ∧ Makes records caller callee := by
  rw [externals, Tally.mem_names_ofPairs, ← mem_map_callsOf, ← contains_definedNames]
  simp only [List.mem_map, List.mem_filter, Bool.not_eq_true', Bool.not_eq_true]
  constructor
  · rintro ⟨call, ⟨member, undefined⟩, rfl⟩
    exact ⟨undefined, call, member, rfl⟩
  · rintro ⟨undefined, call, member, rfl⟩
    exact ⟨call, ⟨member, undefined⟩, rfl⟩

theorem count_externals (undefined : ¬ Defined records callee) :
    (externals records caller).count callee = callCount records caller callee := by
  rw [externals, Tally.count_ofPairs, List.filter_filter, ← sum_callsOf]
  have absent : (definedNames records).contains callee = false := by
    rw [← Bool.not_eq_true]
    exact fun contains => undefined (contains_definedNames.1 contains)
  congr 2
  refine List.filter_congr (fun call _ => ?_)
  by_cases here : call.1 = callee
  · rw [here, absent, Bool.not_false, Bool.and_true]
  · simp [here]

theorem count_targets (node : String) :
    (targets records caller).count node =
      (((callsOf records caller).filter (fun call =>
        nodeName records call.1 == node)).map (·.2)).sum := by
  rw [targets, Tally.count_ofPairs, List.filter_map, List.map_map]
  rfl

end Targets

theorem edgesOf_eq (records : List FunctionRecord) (caller : String) :
    edgesOf records (definedNames records) caller =
      (targets records caller).entries.map (fun entry =>
        ⟨caller, entry.1, entry.2,
          if entry.1 == externalName then externals records caller else Tally.empty⟩) :=
  rfl

theorem build_edges (records : List FunctionRecord) :
    (build records).edges =
      (definedNames records).flatMap (edgesOf records (definedNames records)) :=
  rfl

/-- What there is to know about an edge. -/
theorem mem_edges {edge : GraphEdge} :
    edge ∈ (build records).edges ↔
      Calls records edge.caller edge.callee ∧
        edge.count = (targets records edge.caller).count edge.callee ∧
        edge.externalNames =
          if edge.callee = externalName then externals records edge.caller else Tally.empty := by
  simp only [build_edges, List.mem_flatMap, edgesOf_eq, List.mem_map, Tally.mem_entries,
    mem_names_targets]
  constructor
  · rintro ⟨caller, -, entry, ⟨calls, count⟩, rfl⟩
    exact ⟨calls, count.symm, by simp only [beq_iff_eq]⟩
  · rintro ⟨⟨name, makes, stands⟩, count, names⟩
    refine ⟨edge.caller, mem_definedNames.2 makes.defined, (edge.callee, edge.count),
      ⟨⟨name, makes, stands⟩, count.symm⟩, ?_⟩
    simp only [beq_iff_eq, ← names]

theorem pairwise_edges (records : List FunctionRecord) :
    (build records).edges.Pairwise (fun first second => first.caller < second.caller ∨
      first.caller = second.caller ∧ first.callee < second.callee) := by
  have caller : ∀ name, ∀ edge ∈ edgesOf records (definedNames records) name,
      edge.caller = name := by
    intro name edge member
    obtain ⟨entry, -, rfl⟩ := List.mem_map.1 member
    rfl
  rw [build_edges, List.pairwise_flatMap]
  constructor
  · intro name _
    exact List.pairwise_map.2
      ((targets records name).sorted.imp (fun less => Or.inr ⟨rfl, less⟩))
  · refine (pairwise_definedNames records).imp ?_
    intro first second less one fromFirst two fromSecond
    rw [caller first one fromFirst, caller second two fromSecond]
    exact Or.inl less

theorem nodup_ends (records : List FunctionRecord) :
    ((build records).edges.map (fun edge => (edge.caller, edge.callee))).Nodup := by
  refine List.pairwise_map.2 ((pairwise_edges records).imp ?_)
  intro first second sorted same
  rw [Prod.mk.injEq] at same
  rcases sorted with less | ⟨-, less⟩
  · exact String.ne_of_lt less same.1
  · exact String.ne_of_lt less same.2

theorem exists_edge {caller node : String} :
    (∃ edge ∈ (build records).edges, edge.caller = caller ∧ edge.callee = node) ↔
      Calls records caller node := by
  constructor
  · rintro ⟨edge, member, rfl, rfl⟩
    exact (mem_edges.1 member).1
  · intro calls
    let edge : GraphEdge :=
      { caller, callee := node
        count := (targets records caller).count node
        externalNames := if node = externalName then externals records caller else Tally.empty }
    exact ⟨edge, mem_edges.2 ⟨calls, rfl, rfl⟩, rfl, rfl⟩

theorem defined_or_externalName {caller callee : String}
    (calls : Calls records caller callee) :
    Defined records callee ∨ callee = externalName := by
  obtain ⟨name, -, rfl⟩ := calls
  by_cases known : Defined records name
  · rw [nodeName_of_defined known]
    exact Or.inl known
  · exact Or.inr (nodeName_of_not_defined known)

section External

variable (named : ¬ Defined records externalName) {caller callee : String}
include named

theorem nodeName_eq_iff (defined : Defined records callee) {name : String} :
    nodeName records name = callee ↔ name = callee := by
  by_cases known : Defined records name
  · rw [nodeName_of_defined known]
  · rw [nodeName_of_not_defined known]
    constructor
    · rintro rfl
      exact absurd defined named
    · rintro rfl
      exact absurd defined known

theorem nodeName_eq_externalName_iff {name : String} :
    nodeName records name = externalName ↔ ¬ Defined records name := by
  constructor
  · intro external known
    rw [nodeName_of_defined known] at external
    exact named (external ▸ known)
  · exact nodeName_of_not_defined

theorem calls_iff_of_defined (defined : Defined records callee) :
    Calls records caller callee ↔ Makes records caller callee := by
  simp only [Calls, nodeName_eq_iff named defined, exists_eq_right]

theorem calls_externalName_iff :
    Calls records caller externalName ↔
      ∃ callee, ¬ Defined records callee ∧ Makes records caller callee := by
  simp only [Calls, nodeName_eq_externalName_iff named, and_comm]

theorem count_targets_of_defined (defined : Defined records callee) :
    (targets records caller).count callee = callCount records caller callee := by
  rw [count_targets, ← sum_callsOf]
  congr 2
  refine List.filter_congr (fun call _ => ?_)
  rw [Bool.eq_iff_iff, beq_iff_eq, beq_iff_eq, nodeName_eq_iff named defined]

/-- The calls to the external node are those to the names that it stands for. -/
theorem count_targets_externalName (caller : String) :
    (targets records caller).count externalName =
      ((externals records caller).entries.map (·.2)).sum := by
  rw [count_targets, externals, Tally.sum_ofPairs]
  congr 2
  refine List.filter_congr (fun call _ => ?_)
  rw [Bool.eq_iff_iff, beq_iff_eq, nodeName_eq_externalName_iff named, ← contains_definedNames,
    Bool.not_eq_true', Bool.not_eq_true]

end External

/-! ### Sums over all edges -/

def recordedCallsTo (records : List FunctionRecord) (test : String → Bool) : Nat :=
  (((records.flatMap (fun record => record.calls.entries)).filter
    (fun call => test (nodeName records call.1))).map (·.2)).sum

def recordedInternal (records : List FunctionRecord) : Nat :=
  recordedCallsTo records (fun node => node != externalName)

/-- All calls to names without a definition. -/
def recordedExternal (records : List FunctionRecord) : Nat :=
  recordedCallsTo records (fun node => node == externalName)

theorem recordedInternal_add_recordedExternal (records : List FunctionRecord) :
    recordedInternal records + recordedExternal records = recordedCalls records := by
  have parts := sum_filter (fun call : String × Nat => nodeName records call.1 == externalName)
    (·.2) (records.flatMap (fun record => record.calls.entries))
  rw [sum_map_flatMap] at parts
  rw [Nat.add_comm]
  exact parts

theorem sum_edgesOf (records : List FunctionRecord) (caller : String) (test : String → Bool) :
    (((edgesOf records (definedNames records) caller).filter
        (fun edge => test edge.callee)).map GraphEdge.count).sum =
      (((callsOf records caller).filter
        (fun call => test (nodeName records call.1))).map (·.2)).sum := by
  have entries := Tally.sum_filter_ofPairs test
    ((callsOf records caller).map (fun call => (nodeName records call.1, call.2)))
  rw [List.filter_map, List.map_map] at entries
  rw [edgesOf_eq, List.filter_map, List.map_map]
  exact entries

theorem sum_callers (records : List FunctionRecord) (test : String → Bool) :
    ((definedNames records).map (fun caller => (((callsOf records caller).filter
      (fun call => test (nodeName records call.1))).map (·.2)).sum)).sum =
        recordedCallsTo records test := by
  have covered : ∀ record ∈ records, record.name ∈ definedNames records :=
    fun record member => mem_definedNames.2 ⟨record, member, rfl⟩
  rw [recordedCallsTo, List.filter_flatMap, sum_map_flatMap,
    ← sum_fibers (nodup_definedNames records) FunctionRecord.name _ covered]
  simp only [callsOf, List.filter_flatMap, sum_map_flatMap]

/-- A function makes no more calls to a node than all together to the nodes that pass a test. -/
theorem count_targets_le {caller node : String} (member : caller ∈ definedNames records)
    (test : String → Bool) (passes : test node = true) :
    (targets records caller).count node ≤ recordedCallsTo records test := by
  rw [count_targets, ← sum_callers]
  refine Nat.le_trans ?_ (List.le_sum_of_mem (List.mem_map_of_mem member))
  refine sum_filter_mono (fun call here => ?_) ..
  rwa [beq_iff_eq.1 here]

/-- The calls to a name without a definition are among those to the external node. -/
theorem count_externals_le (caller name : String) :
    (externals records caller).count name ≤ (targets records caller).count externalName := by
  rw [externals, Tally.count_ofPairs, count_targets, List.filter_filter]
  refine sum_filter_mono (fun call absent => ?_) ..
  rw [Bool.and_eq_true, Bool.not_eq_true', ← Bool.not_eq_true, contains_definedNames] at absent
  rw [beq_iff_eq, nodeName_of_not_defined absent.2]

section Fits

variable (inside : recordedInternal records < wordSize)
  (outside : recordedExternal records < wordSize) {caller : String}
  (member : caller ∈ definedNames records)
include inside outside member

/-- No count on an edge is too large for a word if the sums over all edges are not. -/
theorem count_targets_lt (node : String) : (targets records caller).count node < wordSize := by
  by_cases external : node = externalName
  · exact Nat.lt_of_le_of_lt (count_targets_le member (· == externalName)
      (beq_iff_eq.2 external)) outside
  · exact Nat.lt_of_le_of_lt (count_targets_le member (· != externalName)
      (bne_iff_ne.2 external)) inside

theorem count_externals_lt (name : String) : (externals records caller).count name < wordSize :=
  Nat.lt_of_le_of_lt (count_externals_le caller name)
    (count_targets_lt inside outside member externalName)

end Fits

theorem sum_build_edges (records : List FunctionRecord) (test : String → Bool) :
    (((build records).edges.filter (fun edge => test edge.callee)).map GraphEdge.count).sum =
      recordedCallsTo records test := by
  rw [build_edges, List.filter_flatMap, sum_map_flatMap, ← sum_callers]
  simp only [sum_edgesOf]

theorem totalCalls_build (records : List FunctionRecord) :
    (build records).stats.totalCalls = recordedInternal records :=
  sum_build_edges records (· != externalName)

theorem externalCalls_build (records : List FunctionRecord) :
    (build records).stats.externalCalls = recordedExternal records :=
  sum_build_edges records (· == externalName)

theorem sum_edges (records : List FunctionRecord) :
    ((build records).edges.map GraphEdge.count).sum = recordedCalls records := by
  have parts := sum_filter (fun edge : GraphEdge => edge.callee == externalName) GraphEdge.count
    (build records).edges
  rw [← parts, ← recordedInternal_add_recordedExternal, Nat.add_comm]
  exact congrArg₂ _ (totalCalls_build records) (externalCalls_build records)

/-- A graph is built unless the calls to functions together are too many for a word, or those to
names without a definition. -/
theorem checked_build_iff {graph : CallGraph} :
    (build records).checked = .ok graph ↔
      recordedInternal records < wordSize ∧ recordedExternal records < wordSize ∧
        graph = build records := by
  rw [checked, totalCalls_build, externalCalls_build, ← and_assoc]
  split
  · simp_all [eq_comm]
  · simp_all

theorem checked_build_eq_overflow_iff :
    (build records).checked = .error .overflow ↔
      wordSize ≤ recordedInternal records ∨ wordSize ≤ recordedExternal records := by
  rw [checked, totalCalls_build, externalCalls_build, ← Nat.not_lt, ← Nat.not_lt,
    ← Decidable.not_and_iff_not_or_not]
  split <;> simp_all

theorem checked_build_of_fits (fits : recordedCalls records < wordSize) :
    (build records).checked = .ok (build records) := by
  have parts := recordedInternal_add_recordedExternal records
  exact checked_build_iff.2 ⟨by omega, by omega, rfl⟩

end CSurvey.CallGraph
