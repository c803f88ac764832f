import CSurvey.Engine.Basic
import CSurvey.Proofs.CallGraph.Edges
import CSurvey.Proofs.Chunk.Tiling
import CSurvey.Proofs.Diagram.Accounts
import CSurvey.Proofs.Wire.RoundTrip
import CSurvey.Wire.Operation

/-!
# Counts that outgrow a word

The counts in a request are words, but their sums need not be.  A diagram and a call
graph are computed with exact counts and then refused if one of them is too large.  Here
they are computed by additions that fail one by one, which refuses the same requests.  For
a diagram with its total none fails exactly if all counts of the graph together fit into a
word; for a call graph, if the calls among its functions do, and those to other names.
Nothing else that an engine does adds up counts from outside.
-/

namespace CSurvey

namespace Diagram

/-- Add a count to the pair with the given names, or append such a pair, unless the sum is too
large for a word. -/
def addPair? (key : String × String) (count : Nat) : List Pair → Option (List Pair)
  | [] => (plus? 0 count).map (fun sum => [(key, sum)])
  | pair :: rest =>
    if pair.1 == key then (plus? pair.2 count).map (fun sum => (key, sum) :: rest)
    else (addPair? key count rest).map (fun more => pair :: more)

/-- The pairs of names that edges join, with summed counts. -/
def pairsOf? (edges : List InputEdge) : Option (List Pair) :=
  edges.foldlM (fun pairs edge => addPair? (edge.source, edge.target) edge.count pairs) []

/-- What is not shown of some pairs. -/
def aggregate? (names kept : List String) (pairs : List Pair) : Option ExternalAggregate := do
  let isKept (name : String) := kept.contains name
  let inbound ← Tally.ofPairs?
    ((pairs.filter (fun pair => !isKept pair.1.1 && isKept pair.1.2)).map
      (fun pair => (pair.1.2, pair.2)))
  let outbound ← Tally.ofPairs?
    ((pairs.filter (fun pair => isKept pair.1.1 && !isKept pair.1.2)).map
      (fun pair => (pair.1.1, pair.2)))
  let internal ← sumWords?
    ((pairs.filter (fun pair => !isKept pair.1.1 && !isKept pair.1.2)).map (·.2))
  return { dropped := names.filter (fun name => !isKept name), inbound, outbound, internal }

/-- The diagram of a graph, unless a sum of counts in it is too large for a word. -/
def draw? (input : GraphInput) (kind : ChartKind) (maxNodes : Nat) : Option Diagram := do
  let names := namesOf input
  let pairs ← pairsOf? input.edges
  let kept := (rank pairs names).take maxNodes
  let ids := assignIds [] kept
  let external ← aggregate? names kept pairs
  return {
    draw input kind maxNodes with
    edges := (pairs.filter (fun pair => kept.contains pair.1.1 && kept.contains pair.1.2)).map
      (fun pair => ⟨idIn ids pair.1.1, idIn ids pair.1.2, pair.2⟩)
    external }

/-- No count of some pairs is too large for a word. -/
def PairsFit (pairs : List Pair) : Prop :=
  ∀ pair ∈ pairs, pair.2 < wordSize

section Pairs

variable {key : String × String} {count : Nat} {pairs more : List Pair}

theorem pairsFit_cons {pair : Pair} :
    PairsFit (pair :: pairs) ↔ pair.2 < wordSize ∧ PairsFit pairs :=
  List.forall_mem_cons

theorem pairsFit_of_addPair (fits : PairsFit (addPair key count pairs)) : PairsFit pairs := by
  induction pairs with
  | nil => exact List.forall_mem_nil _
  | cons pair rest ih =>
    rw [addPair] at fits
    split at fits
    · obtain ⟨sum, others⟩ := pairsFit_cons.1 fits
      exact pairsFit_cons.2 ⟨Nat.lt_of_le_of_lt (Nat.le_add_right ..) sum, others⟩
    · obtain ⟨own, others⟩ := pairsFit_cons.1 fits
      exact pairsFit_cons.2 ⟨own, ih others⟩

theorem addPair?_eq_some_iff (fits : PairsFit pairs) :
    addPair? key count pairs = some more ↔
      PairsFit (addPair key count pairs) ∧ more = addPair key count pairs := by
  induction pairs generalizing more with
  | nil =>
    rw [addPair?, map_eq_some_iff_of_iff (fun _ => plus?_eq_some_iff), Nat.zero_add]
    simp [addPair, pairsFit_cons, fits]
  | cons pair rest ih =>
    obtain ⟨own, others⟩ := pairsFit_cons.1 fits
    rw [addPair?, addPair]
    split
    · rw [map_eq_some_iff_of_iff (fun _ => plus?_eq_some_iff), pairsFit_cons, and_iff_left others]
    · rw [map_eq_some_iff_of_iff (fun _ => ih others), pairsFit_cons, and_iff_right own]

/-- No addition is too large for a word if no count is in the end. -/
theorem pairsOf?_eq_some_iff {edges : List InputEdge} :
    pairsOf? edges = some pairs ↔ PairsFit (pairsOf edges) ∧ pairs = pairsOf edges :=
  foldlM_eq_some_iff PairsFit
    (fun pairs (edge : InputEdge) => addPair (edge.source, edge.target) edge.count pairs)
    (fun _ _ => pairsFit_of_addPair) (fun _ _ _ => addPair?_eq_some_iff) (List.forall_mem_nil _)

end Pairs

section Draw

variable {names kept : List String} {pairs : List Pair} {external : ExternalAggregate}

theorem aggregate?_eq_some_iff :
    aggregate? names kept pairs = some external ↔
      ((∀ name, (aggregate names kept pairs).inbound.count name < wordSize) ∧
        (∀ name, (aggregate names kept pairs).outbound.count name < wordSize) ∧
        (aggregate names kept pairs).internal < wordSize) ∧
      external = aggregate names kept pairs := by
  simp only [aggregate?, Option.bind_eq_bind, Option.bind_eq_some_iff,
    Tally.ofPairs?_eq_some_iff, sumWords?_eq_some_iff]
  constructor
  · rintro ⟨_, ⟨inbound, rfl⟩, _, ⟨outbound, rfl⟩, _, ⟨internal, rfl⟩, found⟩
    exact ⟨⟨inbound, outbound, internal⟩, (Option.some.inj found).symm⟩
  · rintro ⟨⟨inbound, outbound, internal⟩, rfl⟩
    exact ⟨_, ⟨inbound, rfl⟩, _, ⟨outbound, rfl⟩, _, ⟨internal, rfl⟩, rfl⟩

variable {input : GraphInput} {kind : ChartKind} {maxNodes : Nat} {diagram : Diagram}

theorem exists_count_of_mem_pairsOf {pair : Pair} (member : pair ∈ pairsOf input.edges) :
    ∃ count ∈ (draw input kind maxNodes).counts, pair.2 ≤ count := by
  simp only [counts, List.mem_append, List.mem_singleton, List.mem_map]
  cases source : (keptOf input maxNodes).contains pair.1.1 <;>
    cases target : (keptOf input maxNodes).contains pair.1.2
  case true.true =>
    have shown : pair ∈ (pairsOf input.edges).filter (fun pair =>
        (keptOf input maxNodes).contains pair.1.1 && (keptOf input maxNodes).contains pair.1.2) :=
      List.mem_filter.2 ⟨member, by rw [source, target]; rfl⟩
    exact ⟨pair.2, Or.inl (Or.inl (Or.inl ⟨_, List.mem_map_of_mem shown, rfl⟩)), Nat.le_refl _⟩
  case false.true =>
    obtain ⟨entry, inTally, le⟩ := exists_entry_tallyEnd (fun source target =>
      !(keptOf input maxNodes).contains source && (keptOf input maxNodes).contains target)
      Prod.snd member (by rw [source, target]; rfl)
    exact ⟨entry.2, Or.inl (Or.inl (Or.inr ⟨entry, inTally, rfl⟩)), le⟩
  case true.false =>
    obtain ⟨entry, inTally, le⟩ := exists_entry_tallyEnd (fun source target =>
      (keptOf input maxNodes).contains source && !(keptOf input maxNodes).contains target)
      Prod.fst member (by rw [source, target]; rfl)
    exact ⟨entry.2, Or.inl (Or.inr ⟨entry, inTally, rfl⟩), le⟩
  case false.false =>
    have stays : pair ∈ (pairsOf input.edges).filter (fun pair =>
        !(keptOf input maxNodes).contains pair.1.1 &&
          !(keptOf input maxNodes).contains pair.1.2) :=
      List.mem_filter.2 ⟨member, by rw [source, target]; rfl⟩
    exact ⟨_, Or.inr rfl, List.le_sum_of_mem (List.mem_map_of_mem stays)⟩

theorem draw?_eq_some_iff :
    draw? input kind maxNodes = some diagram ↔
      (∀ count ∈ (draw input kind maxNodes).counts, count < wordSize) ∧
        diagram = draw input kind maxNodes := by
  simp only [draw?, Option.bind_eq_bind, Option.bind_eq_some_iff, pairsOf?_eq_some_iff,
    aggregate?_eq_some_iff, Tally.forall_count_lt_iff]
  constructor
  · rintro ⟨_, ⟨fits, rfl⟩, _, ⟨⟨inbound, outbound, internal⟩, rfl⟩, drawn⟩
    obtain rfl := Option.some.inj drawn
    refine ⟨fun count member => ?_, rfl⟩
    simp only [counts, List.mem_append, List.mem_singleton, List.mem_map] at member
    obtain ((⟨_, shown, rfl⟩ | ⟨entry, inTally, rfl⟩) | ⟨entry, inTally, rfl⟩) | rfl := member
    · obtain ⟨pair, found, rfl⟩ := List.mem_map.1 shown
      exact fits pair (List.mem_filter.1 found).1
    · exact inbound entry inTally
    · exact outbound entry inTally
    · exact internal
  · rintro ⟨fits, rfl⟩
    have small : PairsFit (pairsOf input.edges) := by
      intro pair member
      obtain ⟨count, inCounts, le⟩ := exists_count_of_mem_pairsOf member
      exact Nat.lt_of_le_of_lt le (fits count inCounts)
    simp only [counts, List.mem_append, List.mem_singleton] at fits
    refine ⟨_, ⟨small, rfl⟩, _, ⟨⟨?_, ?_, ?_⟩, rfl⟩, rfl⟩
    · exact fun entry member =>
        fits entry.2 (Or.inl (Or.inl (Or.inr (List.mem_map_of_mem member))))
    · exact fun entry member => fits entry.2 (Or.inl (Or.inr (List.mem_map_of_mem member)))
    · exact fits _ (Or.inr rfl)

/-- Additions that fail refuse what is refused for its counts. -/
theorem render_eq_ok_iff_draw? :
    render input kind maxNodes = .ok diagram ↔
      1 ≤ maxNodes ∧ draw? input kind maxNodes = some diagram := by
  rw [draw?_eq_some_iff, render_eq_ok_iff]

/-- A diagram and its total are computed exactly if the counts of all edges together fit into a
word. -/
theorem draw?_edgeTotal?_eq_some_iff {total : Nat} :
    draw? input kind maxNodes = some diagram ∧ diagram.edgeTotal? = some total ↔
      input.total < wordSize ∧ diagram = draw input kind maxNodes ∧ total = input.total := by
  rw [draw?_eq_some_iff]
  constructor
  · rintro ⟨⟨-, rfl⟩, totalled⟩
    rw [edgeTotal?_eq_some_iff, sum_counts_draw] at totalled
    exact ⟨totalled.1, rfl, totalled.2⟩
  · rintro ⟨fits, rfl, rfl⟩
    refine ⟨⟨fun count member => ?_, rfl⟩, ?_⟩
    · refine Nat.lt_of_le_of_lt (List.le_sum_of_mem member) ?_
      rwa [sum_counts_draw]
    · rw [edgeTotal?_eq_some_iff, sum_counts_draw]
      exact ⟨fits, rfl⟩

end Draw

end Diagram

namespace CallGraph

/-- The edges of one caller, unless a count is too large for a word. -/
def edgesOf? (records : List FunctionRecord) (names : List String) (caller : String) :
    Option (List GraphEdge) := do
  let calls := callsOf records caller
  let targets ← Tally.ofPairs? (calls.map (fun call =>
    (if names.contains call.1 then call.1 else externalName, call.2)))
  let externals ← Tally.ofPairs? (calls.filter (fun call => !names.contains call.1))
  return targets.entries.map (fun (callee, count) =>
    { caller, callee, count
      externalNames := if callee == externalName then externals else Tally.empty })

/-- The graph of a list of records, unless a sum of counts in it is too large for a word. -/
def build? (records : List FunctionRecord) : Option CallGraph := do
  let names := definedNames records
  let edges := (← names.mapM (edgesOf? records names)).flatten
  let totalCalls ← sumWords?
    ((edges.filter (fun edge => edge.callee != externalName)).map GraphEdge.count)
  let externalCalls ← sumWords?
    ((edges.filter (fun edge => edge.callee == externalName)).map GraphEdge.count)
  let graph := build records
  return { graph with edges, stats := { graph.stats with totalCalls, externalCalls } }

section Build

variable {records : List FunctionRecord} {caller : String} {graph : CallGraph}

theorem edgesOf?_eq_some_iff {edges : List GraphEdge} :
    edgesOf? records (definedNames records) caller = some edges ↔
      (∀ node, (targets records caller).count node < wordSize) ∧
        edges = edgesOf records (definedNames records) caller := by
  have counted : edgesOf? records (definedNames records) caller =
      (Tally.ofPairs? ((callsOf records caller).map (fun call =>
        (nodeName records call.1, call.2)))).bind (fun targets =>
          (Tally.ofPairs? ((callsOf records caller).filter (fun call =>
            !(definedNames records).contains call.1))).bind (fun externals =>
              some (targets.entries.map (fun entry => ⟨caller, entry.1, entry.2,
                if entry.1 == externalName then externals else Tally.empty⟩)))) := rfl
  simp only [counted, Option.bind_eq_some_iff, Tally.ofPairs?_eq_some_iff]
  constructor
  · rintro ⟨_, ⟨inside, rfl⟩, _, ⟨-, rfl⟩, made⟩
    exact ⟨inside, (Option.some.inj made).symm⟩
  · rintro ⟨inside, rfl⟩
    refine ⟨_, ⟨inside, rfl⟩, _, ⟨fun name => ?_, rfl⟩, rfl⟩
    exact Nat.lt_of_le_of_lt (count_externals_le caller name) (inside externalName)

theorem mapM_edgesOf?_eq_some_iff {parts : List (List GraphEdge)} :
    (definedNames records).mapM (edgesOf? records (definedNames records)) = some parts ↔
      (∀ caller ∈ definedNames records, ∀ node, (targets records caller).count node < wordSize) ∧
        parts = (definedNames records).map (edgesOf records (definedNames records)) := by
  rw [Json.mapM_eq_some_iff]
  have found (fits : ∀ caller ∈ definedNames records, ∀ node,
      (targets records caller).count node < wordSize) :
      (definedNames records).map (edgesOf? records (definedNames records)) =
        ((definedNames records).map (edgesOf records (definedNames records))).map some := by
    rw [List.map_map]
    exact List.map_congr_left fun caller member =>
      edgesOf?_eq_some_iff.2 ⟨fits caller member, rfl⟩
  constructor
  · intro same
    have fits : ∀ caller ∈ definedNames records, ∀ node,
        (targets records caller).count node < wordSize := by
      intro caller member
      obtain ⟨edges, -, part⟩ := List.mem_map.1 (same ▸ List.mem_map_of_mem member)
      exact (edgesOf?_eq_some_iff.1 part.symm).1
    exact ⟨fits, (List.map_injective_iff.2 (Option.some_injective _)
      ((found fits).symm.trans same)).symm⟩
  · rintro ⟨fits, rfl⟩
    exact found fits

/-- Additions that fail refuse the graphs that are refused for their numbers. -/
theorem build?_eq_some_iff :
    build? records = some graph ↔ (build records).checked = .ok graph := by
  have flat : ((definedNames records).map (edgesOf records (definedNames records))).flatten =
      (build records).edges := rfl
  have internal := totalCalls_build records
  have external := externalCalls_build records
  rw [checked_build_iff, ← internal, ← external]
  simp only [build?, Option.bind_eq_bind, Option.bind_eq_some_iff, mapM_edgesOf?_eq_some_iff,
    sumWords?_eq_some_iff]
  constructor
  · rintro ⟨_, ⟨fits, rfl⟩, _, ⟨inside, rfl⟩, _, ⟨outside, rfl⟩, made⟩
    exact ⟨inside, outside, (Option.some.inj made).symm⟩
  · rintro ⟨inside, outside, rfl⟩
    have fits : ∀ caller ∈ definedNames records, ∀ node,
        (targets records caller).count node < wordSize :=
      fun caller member => count_targets_lt (internal ▸ inside) (external ▸ outside) member
    exact ⟨_, ⟨fits, rfl⟩, _, ⟨inside, rfl⟩, _, ⟨outside, rfl⟩, rfl⟩

end Build

end CallGraph

/-- No addition on the way to an outcome fails. -/
def AddsUp {α : Type} (outcome : Except Fault α) : Prop :=
  outcome ≠ .error .overflow

section AddsUp

variable {α β : Type}

theorem addsUp_ok (value : α) : AddsUp (.ok value) :=
  fun same => nomatch same

theorem addsUp_argument (fault : ArgumentFault) :
    AddsUp (.error (.argument fault) : Except Fault α) :=
  fun same => nomatch same

theorem AddsUp.bind_eq_overflow_iff {first : Except Fault α} {next : α → Except Fault β}
    (here : AddsUp first) :
    first >>= next = .error .overflow ↔
      ∃ value, first = .ok value ∧ next value = .error .overflow := by
  cases first with
  | ok value => exact ⟨fun fails => ⟨value, rfl, fails⟩, fun ⟨_, rfl, fails⟩ => fails⟩
  | error fault =>
    have other : fault ≠ .overflow := fun same => here (congrArg Except.error same)
    simpa [bind, Except.bind] using other

theorem AddsUp.bind {first : Except Fault α} {next : α → Except Fault β} (here : AddsUp first)
    (later : ∀ value, AddsUp (next value)) : AddsUp (first >>= next) := by
  intro fails
  obtain ⟨value, -, fails⟩ := here.bind_eq_overflow_iff.1 fails
  exact later value fails

theorem map_eq_overflow_iff {outcome : Except Fault α} (f : α → β) :
    outcome.map f = .error .overflow ↔ outcome = .error .overflow := by
  cases outcome <;> simp [Except.map]

theorem AddsUp.map {outcome : Except Fault α} (here : AddsUp outcome) (f : α → β) :
    AddsUp (outcome.map f) :=
  fun same => here ((map_eq_overflow_iff f).1 same)

theorem addsUp_load (input : SourceInput) (disk : Disk) : AddsUp (input.load disk) := by
  rw [SourceInput.load]
  split
  · exact addsUp_ok _
  · rw [Disk.load]
    split
    · exact addsUp_ok _
    · exact fun same => nomatch same
  · exact addsUp_argument _

theorem addsUp_chunkSource (source : Source) (tokens : List Token) (limit : Nat) :
    AddsUp (chunkSource source tokens limit) := by
  rcases Nat.eq_zero_or_pos limit with rfl | positive
  · exact addsUp_argument _
  · rw [chunkSource_eq source tokens positive]
    exact addsUp_ok _

theorem addsUp_chartKind (word : String) : AddsUp (ChartKind.parse word) := by
  rw [ChartKind.parse]
  split
  · exact addsUp_ok _
  · exact addsUp_argument _

theorem addsUp_searchKind (word : String) : AddsUp (SearchKind.parse word) := by
  rw [SearchKind.parse]
  split
  · exact addsUp_ok _
  · exact addsUp_argument _

theorem addsUp_matcher (compile : PatternCompiler) (query : SearchQuery) :
    AddsUp (query.matcher compile) := by
  rw [SearchQuery.matcher]
  split
  · exact addsUp_ok _
  split
  · exact addsUp_ok _
  split
  · exact addsUp_ok _
  · exact addsUp_argument _

end AddsUp

namespace Engine

section Adding

variable {engine : Engine} {disk : Disk}

theorem addsUp_chunkLimit (requested : Option Nat) : AddsUp (engine.chunkLimit requested) := by
  unfold chunkLimit
  split
  · exact addsUp_argument _
  · exact addsUp_ok _
  · exact addsUp_ok _

theorem addsUp_chunk (request : ChunkRequest) : AddsUp (engine.chunk disk request) :=
  (addsUp_chunkLimit _).bind fun _ => (addsUp_load _ _).bind fun _ =>
    (addsUp_chunkSource _ _ _).bind fun _ => addsUp_ok _

theorem addsUp_search (request : SearchRequest) : AddsUp (engine.search disk request) := by
  obtain ⟨input, pattern, word, literal⟩ := request
  cases word with
  | some word =>
    exact (addsUp_searchKind word).bind fun _ => (addsUp_matcher _ _).bind fun _ =>
      (addsUp_load _ _).bind fun _ => addsUp_ok _
  | none =>
    exact (addsUp_matcher _ _).bind fun _ => (addsUp_load _ _).bind fun _ => addsUp_ok _

theorem addsUp_analyze (input : SourceInput) : AddsUp (engine.analyze disk input) :=
  (addsUp_load _ _).bind fun _ => (addsUp_chunkSource _ _ _).bind fun _ => addsUp_ok _

theorem addsUp_report (request : ReportRequest) : AddsUp (engine.report disk request) := by
  obtain ⟨input, given⟩ := request
  cases given with
  | some analysis => exact addsUp_ok _
  | none => exact (addsUp_analyze input).bind fun _ => addsUp_ok _

/-- The functions that a graph is made of. -/
def recordsOf (engine : Engine) (disk : Disk) (request : DependencyRequest) :
    Except Fault (List FunctionRecord) :=
  match request.functions, request.chunks with
  | some records, _ => .ok records
  | none, some chunks => .ok (chunks.flatMap Chunk.functions)
  | none, none => do
    let source ← request.source.load disk
    let chunks ← chunkSource source (scan source.text) engine.analyzer.maxChunkSize
    return chunks.flatMap Chunk.functions

theorem analyzeDependencies_eq (request : DependencyRequest) :
    engine.analyzeDependencies disk request = (do
      let records ← engine.recordsOf disk request
      (CallGraph.build records).checked) := by
  obtain ⟨functions, chunks, input⟩ := request
  cases functions with
  | some records => rfl
  | none =>
    cases chunks with
    | some chunks => rfl
    | none =>
      simp only [analyzeDependencies, recordsOf, bind_assoc, pure_bind]
      rfl

theorem addsUp_recordsOf (request : DependencyRequest) :
    AddsUp (engine.recordsOf disk request) := by
  rw [recordsOf]
  split
  · exact addsUp_ok _
  · exact addsUp_ok _
  · exact (addsUp_load _ _).bind fun _ => (addsUp_chunkSource _ _ _).bind fun _ => addsUp_ok _

/-- The kind of chart that a word names, or the one that is set. -/
def chartKindOf (engine : Engine) : Option String → Except Fault ChartKind
  | some word => ChartKind.parse word
  | none => .ok engine.chartKind

theorem addsUp_chartKindOf (word : Option String) : AddsUp (engine.chartKindOf word) := by
  cases word with
  | some word => exact addsUp_chartKind word
  | none => exact addsUp_ok _

/-- The bound on the nodes of a diagram. -/
def maxNodesOf (engine : Engine) (request : DiagramRequest) : Nat :=
  request.maxNodes.getD engine.settings.analysis.maxNodes

theorem renderDiagram_eq (request : DiagramRequest) :
    engine.renderDiagram request = (do
      let kind ← engine.chartKindOf request.chartKind
      let diagram ← Diagram.render request.graph kind (engine.maxNodesOf request)
      return {
        diagram
        mermaid := if request.mermaid then some diagram.mermaid else none
        dot := if request.dot then some diagram.dot else none }) := by
  obtain ⟨graph, word, maxNodes, mermaid, dot⟩ := request
  cases word <;> rfl

/-- A request adds up counts to one that is too large for a word: for a call graph, all calls to
functions, or all to names without a definition; for a diagram, one of its counts. -/
def Overflows (engine : Engine) (disk : Disk) : Request → Prop
  | .analyzeDependencies request => ∃ records, engine.recordsOf disk request = .ok records ∧
      (wordSize ≤ CallGraph.recordedInternal records ∨
        wordSize ≤ CallGraph.recordedExternal records)
  | .renderDiagram request => ∃ kind, engine.chartKindOf request.chartKind = .ok kind ∧
      1 ≤ engine.maxNodesOf request ∧
        ∃ count ∈ (Diagram.draw request.graph kind (engine.maxNodesOf request)).counts,
          wordSize ≤ count
  | _ => False

theorem analyzeDependencies_eq_overflow_iff {request : DependencyRequest} :
    engine.analyzeDependencies disk request = .error .overflow ↔
      engine.Overflows disk (.analyzeDependencies request) := by
  rw [analyzeDependencies_eq, (addsUp_recordsOf request).bind_eq_overflow_iff]
  simp only [CallGraph.checked_build_eq_overflow_iff, Overflows]

theorem renderDiagram_eq_overflow_iff {request : DiagramRequest} :
    engine.renderDiagram request = .error .overflow ↔
      engine.Overflows disk (.renderDiagram request) := by
  rw [renderDiagram_eq, (addsUp_chartKindOf request.chartKind).bind_eq_overflow_iff, Overflows]
  refine exists_congr fun kind => and_congr_right fun _ => ?_
  rw [← Diagram.render_eq_overflow_iff]
  cases Diagram.render request.graph kind (engine.maxNodesOf request) <;>
    simp [bind, Except.bind, pure, Except.pure]

/-- A request fails for an addition exactly if it adds up counts to one that is too large. -/
theorem run_eq_overflow_iff {history : History} {request : Request} :
    engine.run disk history request = .error .overflow ↔ engine.Overflows disk request := by
  have never {outcome : Except Fault Response} (adds : AddsUp outcome) :
      outcome = .error .overflow ↔ False :=
    iff_false_intro adds
  cases request with
  | chunk request => exact never ((addsUp_chunk request).map _)
  | analyzeFunction request => exact never (addsUp_ok _)
  | analyzeDependencies request =>
    exact (map_eq_overflow_iff _).trans analyzeDependencies_eq_overflow_iff
  | search request => exact never ((addsUp_search request).map _)
  | renderDiagram request =>
    exact (map_eq_overflow_iff _).trans renderDiagram_eq_overflow_iff
  | refactor request => exact never (addsUp_ok _)
  | audit input => exact never (((addsUp_analyze input).bind fun _ => addsUp_ok _).map _)
  | report request => exact never ((addsUp_report request).map _)
  | recommend question => exact never (addsUp_ok _)

end Adding

end Engine

/-- Additions that fail refuse the same requests as the checks of the counts.  With the total of a
diagram, all additions of counts fit into words exactly if the counts of all edges of its graph
together do; those for a call graph, if all calls to functions do, and all to names without a
definition. -/
theorem additions_fit_iff (input : GraphInput) (kind : ChartKind) (maxNodes : Nat)
    (diagram : Diagram) (total : Nat) (records : List FunctionRecord) (graph : CallGraph) :
    (Diagram.render input kind maxNodes = .ok diagram ↔
      1 ≤ maxNodes ∧ Diagram.draw? input kind maxNodes = some diagram) ∧
    (Diagram.draw? input kind maxNodes = some diagram ∧ diagram.edgeTotal? = some total ↔
      input.total < wordSize ∧ diagram = Diagram.draw input kind maxNodes ∧
        total = input.total) ∧
    ((CallGraph.build records).checked = .ok graph ↔ CallGraph.build? records = some graph) ∧
    (CallGraph.build? records = some graph ↔
      CallGraph.recordedInternal records < wordSize ∧
        CallGraph.recordedExternal records < wordSize ∧ graph = CallGraph.build records) :=
  ⟨Diagram.render_eq_ok_iff_draw?, Diagram.draw?_edgeTotal?_eq_some_iff,
    CallGraph.build?_eq_some_iff.symm,
    CallGraph.build?_eq_some_iff.trans CallGraph.checked_build_iff⟩

/-- Two edges, and a function with two callees, with half as many calls each as a word can tell
apart.  Both requests are read, and neither is answered. -/
theorem additions_overflow :
    let half := wordSize / 2
    let edge : Json := .obj [("from", .str "a"), ("to", .str "b"), ("count", .nat half)]
    let graph : Json := .obj [("nodes", .arr []), ("edges", .arr [edge, edge])]
    let input : GraphInput := ⟨[], [⟨"a", "b", half⟩, ⟨"a", "b", half⟩]⟩
    let drawing : Request := .renderDiagram ⟨input, none, some 10, false, false⟩
    let record : FunctionRecord :=
      { name := "f", ordinal := 1, signature := "int f()", returnType := "int", params := ""
        chunkId := 1, span := ⟨0, 10, 1, 1⟩, body := ⟨8, 10, 1, 1⟩, text := "int f() \x7b\x7d"
        incomplete := false, calls := Tally.ofPairs [("g", half), ("h", half)]
        metrics := { Metrics.zero with lineCount := 1, cyclomatic := 1 } }
    let building : Request := .analyzeDependencies ⟨some [record], none, ⟨none, none⟩⟩
    Request.ofJson? .renderDiagram (.obj [("graph", graph), ("max_nodes", .nat 10)]) =
        some drawing ∧
      Request.ofJson? .analyzeDependencies
          (.obj [("functions", .list FunctionRecord.toJson [record])]) = some building ∧
      (∀ kind maxNodes, Diagram.draw? input kind maxNodes = none) ∧
      CallGraph.build? [record] = none ∧
      ∀ (engine : Engine) disk history,
        engine.run disk history drawing = .error .overflow ∧
          engine.run disk history building = .error .overflow := by
  intro half edge graph input drawing record building
  have read : GraphInput.ofSource? graph = some input := by decide +kernel
  have inWords : record.InWords :=
    { ordinal := by decide +kernel
      chunkId := by decide +kernel
      span := ⟨by decide +kernel, by decide +kernel, by decide +kernel, by decide +kernel⟩
      body := ⟨by decide +kernel, by decide +kernel, by decide +kernel, by decide +kernel⟩
      calls := by
        unfold Tally.InWords
        decide +kernel
      metrics := ⟨by decide +kernel, by decide +kernel, by decide +kernel, by decide +kernel,
        by decide +kernel, by decide +kernel, by decide +kernel⟩ }
  have merged : Diagram.pairsOf? input.edges = none := by decide +kernel
  have outside : wordSize ≤ CallGraph.recordedExternal [record] := by decide +kernel
  have large (kind : ChartKind) :
      ∃ count ∈ (Diagram.draw input kind 10).counts, wordSize ≤ count := by
    cases kind <;> decide +kernel
  refine ⟨diagramRequest_graph read (by decide),
    dependencyRequest_functions (List.forall_mem_singleton.2 inWords),
    fun kind maxNodes => ?_, ?_, fun engine disk history => ⟨?_, ?_⟩⟩
  · rw [Diagram.draw?, merged]
    rfl
  · refine Option.eq_none_iff_forall_ne_some.2 fun graph built => ?_
    have fits := CallGraph.checked_build_iff.1 (CallGraph.build?_eq_some_iff.1 built)
    omega
  · exact Engine.run_eq_overflow_iff.2 ⟨engine.chartKind, rfl, Nat.one_le_ofNat,
      large engine.chartKind⟩
  · exact Engine.run_eq_overflow_iff.2 ⟨[record], rfl, Or.inr outside⟩

end CSurvey
