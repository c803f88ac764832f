import CSurvey.Proofs.CallGraph.Forget
import CSurvey.Proofs.Analysis.Records
import CSurvey.Proofs.Tally
import Mathlib.Data.List.Pairwise
import Mathlib.Data.String.Basic

/-!
# The order of records

A graph is built from a list of records, but tallies add up in any order, and so
the edges do not depend on the order.  The one choice is between the earliest
definitions of a name: of several that begin alike the first in the list is taken.
So the order matters exactly if two such definitions differ in what a node shows.
-/

namespace CSurvey

namespace CallGraph

section Permuted

variable {records permuted : List FunctionRecord} (same : permuted.Perm records)
include same

theorem definedNames_perm : definedNames permuted = definedNames records := by
  rw [definedNames, definedNames, Tally.ofNames_perm (same.map _)]

theorem edgesOf_perm : edgesOf permuted = edgesOf records := by
  funext names caller
  have calls : (callsOf permuted caller).Perm (callsOf records caller) :=
    (same.filter _).flatMap_right _
  simp only [edgesOf, Tally.ofPairs_perm (calls.map _), Tally.ofPairs_perm (calls.filter _)]

end Permuted

theorem mem_definedNames {records : List FunctionRecord} {name : String} :
    name ∈ definedNames records ↔ ∃ record ∈ records, record.name = name := by
  rw [definedNames, Tally.mem_names_ofNames, List.mem_map]

/-- What the node of a name shows of the earliest definition. -/
def shown (record : FunctionRecord) : String × Nat × Nat × Nat :=
  (record.signature, record.chunkId, record.span.line, record.metrics.cyclomatic)

/-- No definition of the same name begins earlier. -/
def IsEarliest (records : List FunctionRecord) (record : FunctionRecord) : Prop :=
  record ∈ records ∧ ∀ other ∈ records, other.name = record.name → isEarlier other record = false

theorem isEarlier_eq_false {first second : FunctionRecord} :
    isEarlier first second = false ↔ second.span.start < first.span.start ∨
      (second.span.start = first.span.start ∧ second.ordinal ≤ first.ordinal) := by
  simp only [isEarlier, Bool.or_eq_false_iff, Bool.and_eq_false_iff, decide_eq_false_iff_not,
    beq_eq_false_iff_ne]
  omega

/-- None of the records begins earlier than the chosen one, which is one of them. -/
theorem earliest_spec (first : FunctionRecord) (rest : List FunctionRecord) :
    earliest first rest ∈ first :: rest ∧
      ∀ record ∈ first :: rest, isEarlier record (earliest first rest) = false := by
  induction rest generalizing first with
  | nil =>
    have self : isEarlier first first = false := by simp [isEarlier]
    exact ⟨List.mem_cons_self .., fun record member => by
      rw [List.mem_singleton.1 member]
      exact self⟩
  | cons second rest ih =>
    have step : earliest first (second :: rest) =
        earliest (if isEarlier second first then second else first) rest := rfl
    rw [step]
    by_cases earlier : isEarlier second first = true
    · rw [if_pos earlier]
      obtain ⟨member, least⟩ := ih second
      refine ⟨List.mem_cons_of_mem _ member, List.forall_mem_cons.2 ⟨?_, least⟩⟩
      have leastSecond := least second (List.mem_cons_self ..)
      have notEarlier : isEarlier first second = false := by
        simp only [isEarlier, Bool.or_eq_true, Bool.and_eq_true, decide_eq_true_eq,
          beq_iff_eq] at earlier
        rw [isEarlier_eq_false]
        omega
      rw [isEarlier_eq_false] at leastSecond notEarlier ⊢
      omega
    · rw [if_neg earlier]
      obtain ⟨member, least⟩ := ih first
      obtain ⟨leastFirst, others⟩ := List.forall_mem_cons.1 least
      refine ⟨?_, List.forall_mem_cons.2 ⟨leastFirst, List.forall_mem_cons.2 ⟨?_, others⟩⟩⟩
      · rcases List.mem_cons.1 member with eq | later
        · rw [eq]
          exact List.mem_cons_self ..
        · exact List.mem_cons_of_mem _ (List.mem_cons_of_mem _ later)
      · rw [Bool.not_eq_true] at earlier
        rw [isEarlier_eq_false] at earlier leastFirst ⊢
        omega

/-- A record than which none begins earlier is chosen if it comes first. -/
theorem earliest_eq_first {first : FunctionRecord} {rest : List FunctionRecord}
    (least : ∀ record ∈ rest, isEarlier record first = false) : earliest first rest = first := by
  induction rest with
  | nil => rfl
  | cons second rest ih =>
    obtain ⟨head, tail⟩ := List.forall_mem_cons.1 least
    rw [earliest, List.foldl_cons, head, if_neg Bool.false_ne_true]
    exact ih tail

theorem isEarliest_earliest {records rest : List FunctionRecord} {name : String}
    {first : FunctionRecord}
    (among : (first :: rest).Perm (records.filter (fun record => record.name == name))) :
    IsEarliest records (earliest first rest) ∧ (earliest first rest).name = name := by
  obtain ⟨member, least⟩ := earliest_spec first rest
  obtain ⟨inRecords, named⟩ := List.mem_filter.1 (among.subset member)
  rw [beq_iff_eq] at named
  refine ⟨⟨inRecords, ?_⟩, named⟩
  intro other inToo same
  apply least
  apply among.symm.subset
  rw [named] at same
  exact List.mem_filter.2 ⟨inToo, beq_iff_eq.2 same⟩

def functionNodes (edges : List GraphEdge) (cycles : List Cycle) (records : List FunctionRecord) :
    List GraphNode :=
  (definedNames records).filterMap (fun name =>
    nodeOf? edges cycles (records.filter (fun record => record.name == name)))

section Agree

variable {edges : List GraphEdge} {cycles : List Cycle} {records permuted : List FunctionRecord}

theorem functionNode_eq_of_shown {first second : FunctionRecord}
    {rest others : List FunctionRecord} (name : first.name = second.name)
    (length : rest.length = others.length)
    (alike : shown (earliest first rest) = shown (earliest second others)) :
    functionNode edges cycles first rest = functionNode edges cycles second others := by
  simp only [shown, Prod.mk.injEq] at alike
  simp only [functionNode, name, length, alike]

theorem nodeOf?_perm {name : String} {mine : List FunctionRecord}
    (own : mine.Perm (records.filter (fun record => record.name == name)))
    (alike : ∀ first second, IsEarliest records first → IsEarliest records second →
      first.name = second.name → shown first = shown second) :
    nodeOf? edges cycles mine =
      nodeOf? edges cycles (records.filter (fun record => record.name == name)) := by
  cases others : records.filter (fun record => record.name == name) with
  | nil =>
    rw [others] at own
    rw [own.eq_nil]
  | cons second rest =>
    cases mine with
    | nil => simp [others] at own
    | cons first mine =>
      have filtered : ∀ record ∈ records.filter (fun record => record.name == name),
          record.name = name := fun record member => beq_iff_eq.1 (List.mem_filter.1 member).2
      obtain ⟨firstLeast, firstName⟩ := isEarliest_earliest own
      obtain ⟨secondLeast, secondName⟩ := isEarliest_earliest (List.Perm.of_eq others.symm)
      have firstNamed := filtered first (own.subset (List.mem_cons_self ..))
      have secondNamed := filtered second (by simp [others])
      have length := own.length_eq
      rw [others, List.length_cons, List.length_cons, Nat.add_right_cancel_iff] at length
      rw [nodeOf?, nodeOf?, functionNode_eq_of_shown (firstNamed.trans secondNamed.symm) length
        (alike _ _ firstLeast secondLeast (firstName.trans secondName.symm))]

/-- If the earliest definitions of each name show the same, the order decides nothing. -/
theorem build_perm (same : permuted.Perm records)
    (alike : ∀ first second, IsEarliest records first → IsEarliest records second →
      first.name = second.name → shown first = shown second) :
    build permuted = build records := by
  have nodes (edges : List GraphEdge) (cycles : List Cycle) :
      functionNodes edges cycles permuted = functionNodes edges cycles records := by
    rw [functionNodes, functionNodes, definedNames_perm same]
    apply List.filterMap_congr
    intro name _
    exact nodeOf?_perm (same.filter _) alike
  rw [build_eq permuted _ _ _ rfl rfl rfl, build_eq records _ _ _ rfl rfl rfl]
  simp only [functionNodes] at nodes
  rw [nodes, definedNames_perm same, edgesOf_perm same]

theorem exists_of_mem_functionNodes {node : GraphNode}
    (member : node ∈ functionNodes edges cycles records) :
    node.external = false ∧
      nodeOf? edges cycles (records.filter (fun record => record.name == node.name)) =
        some node := by
  obtain ⟨name, -, isNode⟩ := List.mem_filterMap.1 member
  cases own : records.filter (fun record => record.name == name) with
  | nil => simp [own, nodeOf?] at isNode
  | cons first rest =>
    have inOwn : first ∈ records.filter (fun record => record.name == name) := by simp [own]
    have named : first.name = name := beq_iff_eq.1 (List.mem_filter.1 inOwn).2
    rw [own] at isNode
    obtain rfl := Option.some.inj isNode
    refine ⟨rfl, ?_⟩
    rw [show (functionNode edges cycles first rest).name = name from named, own]
    rfl

theorem functions_assemble (edges : List GraphEdge) (cycles : List Cycle) {nodes : List GraphNode}
    (inside : ∀ node ∈ nodes, node.external = false) :
    (assemble nodes edges cycles).functions = nodes := by
  have all : nodes.filter (fun node => !node.external) = nodes :=
    List.filter_eq_self.2 (fun node member => by simp [inside node member])
  simp only [functions, assemble]
  split
  · rw [List.filter_append, all]
    exact List.append_nil nodes
  · exact all

theorem functions_build (records : List FunctionRecord) :
    (build records).functions =
      functionNodes (build records).edges (build records).cycles records := by
  have inside : ∀ node ∈ functionNodes (build records).edges (build records).cycles records,
      node.external = false := fun node member => (exists_of_mem_functionNodes member).1
  exact functions_assemble (build records).edges (build records).cycles inside

theorem eq_of_mem_functions {one two : GraphNode} (first : one ∈ (build records).functions)
    (second : two ∈ (build records).functions) (same : one.name = two.name) : one = two := by
  rw [functions_build] at first second
  have here := (exists_of_mem_functionNodes first).2
  rw [same, (exists_of_mem_functionNodes second).2] at here
  exact (Option.some.inj here).symm

/-- What a node shows of the earliest definition. -/
def shownBy (node : GraphNode) : String × Nat × Nat × Nat :=
  (node.signature, node.chunkId, node.headerLine, node.cyclomatic)

/-- If a definition than which none begins earlier comes first, the node of its name shows it. -/
theorem exists_node_of_first {first : FunctionRecord}
    (least : IsEarliest (first :: records) first) :
    ∃ node ∈ (build (first :: records)).functions,
      node.name = first.name ∧ shownBy node = shown first := by
  have own : (first :: records).filter (fun record => record.name == first.name) =
      first :: records.filter (fun record => record.name == first.name) := by
    simp
  have chosen : earliest first (records.filter (fun record => record.name == first.name)) =
      first := by
    apply earliest_eq_first
    intro record member
    obtain ⟨inRecords, named⟩ := List.mem_filter.1 member
    exact least.2 record (List.mem_cons_of_mem _ inRecords) (beq_iff_eq.1 named)
  refine ⟨functionNode (build (first :: records)).edges (build (first :: records)).cycles first
    (records.filter (fun record => record.name == first.name)), ?_, rfl, ?_⟩
  · rw [functions_build, functionNodes, List.mem_filterMap]
    refine ⟨first.name, mem_definedNames.2 ⟨first, List.mem_cons_self .., rfl⟩, ?_⟩
    rw [own]
    rfl
  · simp only [shownBy, functionNode, chosen]
    rfl

theorem IsEarliest.of_perm {record : FunctionRecord} (least : IsEarliest records record)
    (same : permuted.Perm records) : IsEarliest permuted record :=
  ⟨same.symm.subset least.1, fun other member => least.2 other (same.subset member)⟩

end Agree

/-- The order of records decides nothing about their graph if and only if all earliest definitions
of a name, of which several can begin alike, show the same signature, chunk, line and complexity. -/
theorem build_perm_iff (records : List FunctionRecord) :
    (∀ permuted : List FunctionRecord, permuted.Perm records → build permuted = build records) ↔
      ∀ first second, IsEarliest records first → IsEarliest records second →
        first.name = second.name → shown first = shown second := by
  constructor
  · intro stable
    have node (record : FunctionRecord) (least : IsEarliest records record) :
        ∃ node ∈ (build records).functions,
          node.name = record.name ∧ shownBy node = shown record := by
      have same : (record :: records.erase record).Perm records :=
        (List.perm_cons_erase least.1).symm
      rw [← stable _ same]
      exact exists_node_of_first (least.of_perm same)
    intro first second firstLeast secondLeast names
    obtain ⟨one, isOne, oneName, oneShows⟩ := node first firstLeast
    obtain ⟨two, isTwo, twoName, twoShows⟩ := node second secondLeast
    have equal : one = two :=
      eq_of_mem_functions isOne isTwo (oneName.trans (names.trans twoName.symm))
    rw [← oneShows, ← twoShows, equal]
  · intro alike permuted same
    exact build_perm same alike

/-- Two definitions of one name, each at the beginning of its file. -/
theorem build_depends_on_order :
    let plain : FunctionRecord :=
      { name := "main", ordinal := 1, signature := "int main(void)", returnType := "int"
        params := "void", chunkId := 1, span := ⟨0, 17, 1, 1⟩, body := ⟨15, 17, 1, 1⟩
        text := "int main(void) \x7b\x7d", incomplete := false, calls := Tally.empty
        metrics := { Metrics.zero with lineCount := 1, cyclomatic := 1 } }
    let counted : FunctionRecord :=
      { plain with
        signature := "int main(int n)", params := "int n", span := ⟨0, 18, 1, 1⟩
        body := ⟨16, 18, 1, 1⟩, text := "int main(int n) \x7b\x7d"
        metrics := { plain.metrics with parameterCount := 1 } }
    [counted, plain].Perm [plain, counted] ∧ build [counted, plain] ≠ build [plain, counted] := by
  intro plain counted
  refine ⟨.swap .., ?_⟩
  intro same
  have signatures := congrArg (fun graph => graph.nodes.map GraphNode.signature) same
  revert signatures
  decide +kernel

/-- Functions of one source begin at different places, so the graph of a source does not depend on
the order of its functions. -/
theorem build_perm_of_source (source : Source) (limit : Nat) {permuted : List FunctionRecord}
    (same : permuted.Perm
      ((Chunk.ofSource source (scan source.text) limit).flatMap Chunk.functions)) :
    build permuted =
      build ((Chunk.ofSource source (scan source.text) limit).flatMap Chunk.functions) := by
  apply build_perm same
  intro first second firstLeast secondLeast names
  have apart : first ≠ second → first.span.start < second.span.start ∨
      second.span.start < first.span.start := by
    intro different
    have either : ((Chunk.ofSource source (scan source.text) limit).flatMap
        Chunk.functions).Pairwise (fun one two =>
          one.span.start < two.span.start ∨ two.span.start < one.span.start) :=
      (Chunk.pairwise_functions source limit).imp (fun less => Or.inl less.1)
    have symmetric : Std.Symm (fun one two : FunctionRecord =>
        one.span.start < two.span.start ∨ two.span.start < one.span.start) :=
      ⟨fun _ _ => Or.symm⟩
    exact either.forall firstLeast.1 secondLeast.1 different
  by_cases equal : first = second
  · rw [equal]
  · have notSecond := secondLeast.2 first firstLeast.1 names
    have notFirst := firstLeast.2 second secondLeast.1 names.symm
    rw [isEarlier_eq_false] at notFirst notSecond
    rcases apart equal with less | less <;> omega

end CallGraph

end CSurvey
