import CSurvey.Proofs.CallGraph.Accounts
import CSurvey.Proofs.Diagram.Pairs

/-!
# A diagram accounts for its whole graph

The names of a graph are shown or dropped.  An edge between two names that are shown
is an edge of the diagram; the others are counted where they enter what is shown,
where they leave it, or among what is dropped.  So the counts of all edges of the
graph are kept.
-/

namespace CSurvey

theorem GraphInput.countWhere_congr {input : GraphInput} {test other : String → String → Bool}
    (same : ∀ source target, input.Joins source target → test source target = other source target) :
    input.countWhere test = input.countWhere other := by
  unfold GraphInput.countWhere
  rw [List.filter_congr (fun edge member => same _ _ ⟨edge, member, rfl, rfl⟩)]

namespace Diagram

/-- Some node that is shown has the label. -/
def Shows (diagram : Diagram) (name : String) : Prop :=
  name ∈ diagram.nodes.map DiagramNode.label

instance (diagram : Diagram) (name : String) : Decidable (diagram.Shows name) :=
  inferInstanceAs (Decidable (name ∈ diagram.nodes.map DiagramNode.label))

/-- A diagram of at most `maxNodes` nodes keeps the names of a graph and the counts of its edges. -/
structure AccountsFor (diagram : Diagram) (input : GraphInput) (maxNodes : Nat) : Prop where
  labels : (diagram.nodes.map DiagramNode.label).Nodup
  length : diagram.nodes.length = min maxNodes {name | input.Mentions name}.ncard
  /-- Each name is shown or dropped, not both. -/
  mentions : ∀ name, input.Mentions name ↔ diagram.Shows name ∨ name ∈ diagram.external.dropped
  apart : ∀ name, diagram.Shows name → name ∉ diagram.external.dropped
  dropped : diagram.external.dropped.Pairwise (fun first second =>
    input.mentions.idxOf first < input.mentions.idxOf second)
  totalNodes : diagram.totalNodes = {name | input.Mentions name}.ncard
  truncated : diagram.truncated = true ↔ maxNodes < {name | input.Mentions name}.ncard
  ids : (diagram.nodes.map DiagramNode.id).Nodup
  /-- Names that are shown have one edge with all counts if an edge joins them. -/
  ends : (diagram.edges.map (fun edge => (edge.source, edge.target))).Nodup
  edge : ∀ edge, edge ∈ diagram.edges ↔
    ∃ source ∈ diagram.nodes, ∃ target ∈ diagram.nodes, input.Joins source.label target.label ∧
      edge = ⟨source.id, target.id, input.countWhere (fun caller callee =>
        caller == source.label && callee == target.label)⟩
  /-- What enters, by the name it enters. -/
  entered : ∀ name, name ∈ diagram.external.inbound.names ↔
    diagram.Shows name ∧ ∃ source ∈ diagram.external.dropped, input.Joins source name
  inbound : ∀ name, diagram.Shows name → diagram.external.inbound.count name =
    input.countWhere (fun source target => source ∈ diagram.external.dropped && target == name)
  /-- What leaves, by the name it leaves. -/
  left : ∀ name, name ∈ diagram.external.outbound.names ↔
    diagram.Shows name ∧ ∃ target ∈ diagram.external.dropped, input.Joins name target
  outbound : ∀ name, diagram.Shows name → diagram.external.outbound.count name =
    input.countWhere (fun source target => source == name && target ∈ diagram.external.dropped)
  internal : diagram.external.internal = input.countWhere (fun source target =>
    source ∈ diagram.external.dropped && target ∈ diagram.external.dropped)
  edgeTotal : diagram.edgeTotal? = some input.total

section Counts

variable {diagram other : Diagram} {total : Nat}

theorem checked_eq_ok_iff :
    diagram.checked = .ok other ↔ (∀ count ∈ diagram.counts, count < wordSize) ∧
      other = diagram := by
  have small : diagram.counts.all (· < wordSize) = true ↔
      ∀ count ∈ diagram.counts, count < wordSize := by
    simp only [List.all_eq_true, decide_eq_true_eq]
  rw [checked, ← small]
  split
  · rename_i fits
    rw [Except.ok.injEq, eq_comm]
    exact (and_iff_right fits).symm
  · rename_i large
    exact iff_of_false (fun same => nomatch same) (fun fits => large fits.1)

theorem sum_counts (diagram : Diagram) :
    diagram.counts.sum = (diagram.edges.map DiagramEdge.count).sum +
      ((diagram.external.inbound.entries.map (·.2)).sum +
        (diagram.external.outbound.entries.map (·.2)).sum + diagram.external.internal) := by
  simp only [counts, List.sum_append, List.sum_singleton]
  omega

/-- The additions that make up the total fit into words if the last one does. -/
theorem edgeTotal?_eq_some_iff :
    diagram.edgeTotal? = some total ↔
      diagram.counts.sum < wordSize ∧ total = diagram.counts.sum := by
  rw [sum_counts]
  simp only [edgeTotal?, ExternalAggregate.total?, Option.bind_eq_bind, Option.bind_eq_some_iff,
    sumWords?_eq_some_iff, plus?_eq_some_iff]
  constructor
  · rintro ⟨_, ⟨-, rfl⟩, _, ⟨_, ⟨-, rfl⟩, _, ⟨-, rfl⟩, _, ⟨-, rfl⟩, -, rfl⟩, whole⟩
    exact whole
  · rintro ⟨whole, rfl⟩
    exact ⟨_, ⟨by omega, rfl⟩, _,
      ⟨_, ⟨by omega, rfl⟩, _, ⟨by omega, rfl⟩, _, ⟨by omega, rfl⟩, by omega, rfl⟩, whole, rfl⟩

end Counts

section Draw

variable (input : GraphInput) (kind : ChartKind) (maxNodes : Nat)

/-- The names that are shown. -/
def keptOf : List String :=
  (rank (pairsOf input.edges) (namesOf input)).take maxNodes

theorem nodup_keptOf : (keptOf input maxNodes).Nodup :=
  ((rank_perm _ _).nodup_iff.2 (nodup_namesOf input)).sublist (List.take_sublist _ _)

theorem ncard_mentions : {name | input.Mentions name}.ncard = (namesOf input).length :=
  CallGraph.ncard_eq_length id (by rw [List.map_id]; exact nodup_namesOf input)
    (fun name => by rw [List.map_id]; exact mem_namesOf.symm)

theorem length_keptOf :
    (keptOf input maxNodes).length = min maxNodes {name | input.Mentions name}.ncard := by
  rw [keptOf, List.length_take, (rank_perm _ _).length_eq, ncard_mentions]

theorem labels_draw : (draw input kind maxNodes).nodes.map DiagramNode.label =
    keptOf input maxNodes := by
  rw [draw, List.map_map]
  exact List.map_id _

theorem nodup_labels_draw : ((draw input kind maxNodes).nodes.map DiagramNode.label).Nodup := by
  rw [labels_draw]
  exact nodup_keptOf input maxNodes

theorem ids_draw : (draw input kind maxNodes).nodes.map DiagramNode.id =
    (keptOf input maxNodes).map (idIn (assignIds [] (keptOf input maxNodes))) := by
  rw [draw, List.map_map]
  rfl

variable {input kind maxNodes}

theorem render_of_pos (positive : 1 ≤ maxNodes) :
    render input kind maxNodes = (draw input kind maxNodes).checked :=
  if_neg (Nat.ne_of_gt positive)

/-- What is rendered is what is drawn, and no count in it is too large for a word. -/
theorem render_eq_ok_iff {diagram : Diagram} :
    render input kind maxNodes = .ok diagram ↔
      1 ≤ maxNodes ∧ (∀ count ∈ (draw input kind maxNodes).counts, count < wordSize) ∧
        diagram = draw input kind maxNodes := by
  rcases Nat.eq_zero_or_pos maxNodes with rfl | positive
  · simp [render]
  · rw [render_of_pos positive, checked_eq_ok_iff]
    exact (and_iff_right positive).symm

theorem render_eq_overflow_iff :
    render input kind maxNodes = .error .overflow ↔
      1 ≤ maxNodes ∧ ∃ count ∈ (draw input kind maxNodes).counts, wordSize ≤ count := by
  rcases Nat.eq_zero_or_pos maxNodes with rfl | positive
  · simp [render]
  · rw [render_of_pos positive, checked]
    simp [Nat.succ_le_of_lt positive]

theorem eq_draw_of_render {diagram : Diagram}
    (rendered : render input kind maxNodes = .ok diagram) : diagram = draw input kind maxNodes :=
  (render_eq_ok_iff.1 rendered).2.2

theorem mentions_of_mem_keptOf {name : String} (kept : name ∈ keptOf input maxNodes) :
    input.Mentions name :=
  mem_namesOf.1 ((rank_perm _ _).mem_iff.1 (List.mem_of_mem_take kept))

theorem shows_draw {name : String} :
    (draw input kind maxNodes).Shows name ↔ name ∈ keptOf input maxNodes := by
  rw [Shows, labels_draw]

theorem mem_dropped_draw {name : String} :
    name ∈ (draw input kind maxNodes).external.dropped ↔
      input.Mentions name ∧ name ∉ keptOf input maxNodes := by
  simp only [draw, aggregate, List.mem_filter, mem_namesOf, Bool.not_eq_true',
    List.contains_eq_mem, decide_eq_false_iff_not, keptOf]

/-- A name at the end of an edge is dropped if it is not shown. -/
theorem dropped_eq_not_kept {name : String} (mentioned : input.Mentions name) :
    decide (name ∈ (draw input kind maxNodes).external.dropped) =
      !(keptOf input maxNodes).contains name := by
  rw [Bool.eq_iff_iff]
  simp [mem_dropped_draw, mentioned]

theorem exists_node_draw (kind : ChartKind) {name : String} (kept : name ∈ keptOf input maxNodes) :
    ∃ node ∈ (draw input kind maxNodes).nodes,
      node.label = name ∧ node.id = idIn (assignIds [] (keptOf input maxNodes)) name :=
  ⟨_, List.mem_map.2 ⟨name, kept, rfl⟩, rfl, rfl⟩

theorem label_id_of_mem_nodes_draw {node : DiagramNode}
    (member : node ∈ (draw input kind maxNodes).nodes) :
    node.label ∈ keptOf input maxNodes ∧
      node.id = idIn (assignIds [] (keptOf input maxNodes)) node.label := by
  obtain ⟨name, kept, rfl⟩ := List.mem_map.1 member
  exact ⟨kept, rfl⟩

/-- The identifiers tell the names that are shown apart. -/
theorem idIn_inj {first second : String} (inKept : first ∈ keptOf input maxNodes)
    (also : second ∈ keptOf input maxNodes)
    (same : idIn (assignIds [] (keptOf input maxNodes)) first =
      idIn (assignIds [] (keptOf input maxNodes)) second) : first = second :=
  List.inj_on_of_nodup_map (nodup_map_idIn (nodup_keptOf input maxNodes)) inKept also same

end Draw

section Edges

variable {input : GraphInput} {kind : ChartKind} {maxNodes : Nat}

/-- The pairs whose ends are both shown. -/
theorem edges_draw : (draw input kind maxNodes).edges =
    ((pairsOf input.edges).filter (fun pair => (keptOf input maxNodes).contains pair.1.1 &&
      (keptOf input maxNodes).contains pair.1.2)).map (fun pair =>
        ⟨idIn (assignIds [] (keptOf input maxNodes)) pair.1.1,
          idIn (assignIds [] (keptOf input maxNodes)) pair.1.2, pair.2⟩) :=
  rfl

theorem nodup_ends_draw : ((draw input kind maxNodes).edges.map
    (fun edge => (edge.source, edge.target))).Nodup := by
  rw [edges_draw, List.map_map]
  have pairs := (List.pairwise_map.1 (nodup_map_fst_pairsOf input.edges)).filter
    (fun pair => (keptOf input maxNodes).contains pair.1.1 &&
      (keptOf input maxNodes).contains pair.1.2)
  refine List.pairwise_map.2 (pairs.imp_of_mem ?_)
  intro first second inFirst inSecond different same
  have firstKept := (List.mem_filter.1 inFirst).2
  have secondKept := (List.mem_filter.1 inSecond).2
  simp only [Bool.and_eq_true, List.contains_eq_mem, decide_eq_true_eq] at firstKept secondKept
  obtain ⟨sources, targets⟩ := Prod.mk.inj same
  exact different (Prod.ext (idIn_inj firstKept.1 secondKept.1 sources)
    (idIn_inj firstKept.2 secondKept.2 targets))

theorem mem_edges_draw {edge : DiagramEdge} :
    edge ∈ (draw input kind maxNodes).edges ↔
      ∃ source ∈ (draw input kind maxNodes).nodes, ∃ target ∈ (draw input kind maxNodes).nodes,
        input.Joins source.label target.label ∧
          edge = ⟨source.id, target.id, input.countWhere (fun caller callee =>
            caller == source.label && callee == target.label)⟩ := by
  rw [edges_draw]
  constructor
  · intro member
    obtain ⟨pair, found, rfl⟩ := List.mem_map.1 member
    obtain ⟨inPairs, kept⟩ := List.mem_filter.1 found
    simp only [Bool.and_eq_true, List.contains_eq_mem, decide_eq_true_eq] at kept
    obtain ⟨joins, count⟩ := mem_pairsOf.1 inPairs
    obtain ⟨source, isSource, sourceLabel, sourceId⟩ := exists_node_draw kind kept.1
    obtain ⟨target, isTarget, targetLabel, targetId⟩ := exists_node_draw kind kept.2
    refine ⟨source, isSource, target, isTarget, ?_, ?_⟩
    · rw [sourceLabel, targetLabel]
      exact joins
    · rw [sourceId, targetId, sourceLabel, targetLabel, count]
      rfl
  · rintro ⟨source, isSource, target, isTarget, joins, rfl⟩
    obtain ⟨sourceKept, sourceId⟩ := label_id_of_mem_nodes_draw isSource
    obtain ⟨targetKept, targetId⟩ := label_id_of_mem_nodes_draw isTarget
    let pair : Pair := ((source.label, target.label), input.countWhere (fun caller callee =>
      caller == source.label && callee == target.label))
    have inPairs : pair ∈ pairsOf input.edges := mem_pairsOf.2 ⟨joins, rfl⟩
    refine List.mem_map.2 ⟨pair, List.mem_filter.2 ⟨inPairs, ?_⟩, ?_⟩
    · simp [pair, sourceKept, targetKept]
    · rw [sourceId, targetId]

end Edges

section Aggregate

variable {input : GraphInput} {kind : ChartKind} {maxNodes : Nat}

theorem inbound_draw : (draw input kind maxNodes).external.inbound =
    tallyEnd (fun source target => !(keptOf input maxNodes).contains source &&
      (keptOf input maxNodes).contains target) Prod.snd (pairsOf input.edges) :=
  rfl

theorem outbound_draw : (draw input kind maxNodes).external.outbound =
    tallyEnd (fun source target => (keptOf input maxNodes).contains source &&
      !(keptOf input maxNodes).contains target) Prod.fst (pairsOf input.edges) :=
  rfl

theorem internal_draw : (draw input kind maxNodes).external.internal =
    input.countWhere (fun source target => !(keptOf input maxNodes).contains source &&
      !(keptOf input maxNodes).contains target) := by
  rw [← pairCount_pairsOf]
  rfl

theorem sum_edges_draw : ((draw input kind maxNodes).edges.map DiagramEdge.count).sum =
    input.countWhere (fun source target => (keptOf input maxNodes).contains source &&
      (keptOf input maxNodes).contains target) := by
  rw [edges_draw, List.map_map, ← pairCount_pairsOf]
  rfl

/-- Each edge joins names that are shown, enters what is shown, leaves it, or stays outside. -/
theorem countWhere_quarters (input : GraphInput) (kept : String → Bool) :
    input.countWhere (fun source target => kept source && kept target) +
      (input.countWhere (fun source target => !kept source && kept target) +
        input.countWhere (fun source target => kept source && !kept target) +
        input.countWhere (fun source target => !kept source && !kept target)) = input.total :=
  sum_quarters (fun edge : InputEdge => kept edge.source) (fun edge => kept edge.target)
    InputEdge.count input.edges

/-- The counts of a diagram are those of the edges of its graph, put together in another way. -/
theorem sum_counts_draw (input : GraphInput) (kind : ChartKind) (maxNodes : Nat) :
    (draw input kind maxNodes).counts.sum = input.total := by
  rw [sum_counts, sum_edges_draw, inbound_draw, outbound_draw, sum_tallyEnd, sum_tallyEnd,
    internal_draw]
  exact countWhere_quarters input (keptOf input maxNodes).contains

/-- A diagram of a graph whose counts together fit into a word is rendered. -/
theorem render_of_fits (positive : 1 ≤ maxNodes) (fits : input.total < wordSize) :
    render input kind maxNodes = .ok (draw input kind maxNodes) := by
  refine render_eq_ok_iff.2 ⟨positive, fun count member => ?_, rfl⟩
  refine Nat.lt_of_le_of_lt (List.le_sum_of_mem member) ?_
  rwa [sum_counts_draw]

/-- What holds of the diagram that is drawn holds of each one that is rendered, and there is one if
the counts of the graph together fit into a word. -/
theorem render_holds {law : Diagram → Prop} (positive : 1 ≤ maxNodes)
    (holds : law (draw input kind maxNodes)) :
    (∀ diagram, render input kind maxNodes = .ok diagram → law diagram) ∧
      (input.total < wordSize → ∃ diagram, render input kind maxNodes = .ok diagram) :=
  ⟨fun _ rendered => eq_draw_of_render rendered ▸ holds,
    fun fits => ⟨_, render_of_fits positive fits⟩⟩

end Aggregate

/-- The diagram accounts for the names and for the counts of the edges. -/
theorem draw_accountsFor {input : GraphInput} (fits : input.total < wordSize) (kind : ChartKind)
    (maxNodes : Nat) : (draw input kind maxNodes).AccountsFor input maxNodes where
  labels := nodup_labels_draw input kind maxNodes
  length := by
    rw [← length_keptOf, ← labels_draw input kind, List.length_map]
  mentions name := by
    rw [shows_draw, mem_dropped_draw]
    constructor
    · intro mentioned
      exact (Decidable.em _).imp_right (fun absent => ⟨mentioned, absent⟩)
    · exact fun shown => shown.elim mentions_of_mem_keptOf And.left
  apart name shown dropped := (mem_dropped_draw.1 dropped).2 (shows_draw.1 shown)
  dropped := (pairwise_namesOf input).filter _
  totalNodes := (ncard_mentions input).symm
  truncated := by
    rw [ncard_mentions]
    exact decide_eq_true_iff
  ids := by
    rw [ids_draw]
    exact nodup_map_idIn (nodup_keptOf input maxNodes)
  ends := nodup_ends_draw
  edge _ := mem_edges_draw
  entered name := by
    rw [inbound_draw, mem_names_tallyEnd, shows_draw]
    constructor
    · rintro ⟨source, target, joins, passes, rfl⟩
      simp only [Bool.and_eq_true, Bool.not_eq_true', List.contains_eq_mem,
        decide_eq_false_iff_not, decide_eq_true_eq] at passes
      exact ⟨passes.2, source, mem_dropped_draw.2 ⟨joins.mentions.1, passes.1⟩, joins⟩
    · rintro ⟨shown, source, dropped, joins⟩
      refine ⟨source, name, joins, ?_, rfl⟩
      simp [shown, (mem_dropped_draw.1 dropped).2]
  inbound name shown := by
    rw [inbound_draw, count_tallyEnd]
    refine GraphInput.countWhere_congr (fun source target joins => ?_)
    rw [dropped_eq_not_kept joins.mentions.1, Bool.and_assoc]
    have kept := shows_draw.1 shown
    by_cases here : target = name
    · simp [here, kept]
    · rw [beq_false_of_ne here, Bool.and_false, Bool.and_false]
  left name := by
    rw [outbound_draw, mem_names_tallyEnd, shows_draw]
    constructor
    · rintro ⟨source, target, joins, passes, rfl⟩
      simp only [Bool.and_eq_true, Bool.not_eq_true', List.contains_eq_mem,
        decide_eq_false_iff_not, decide_eq_true_eq] at passes
      exact ⟨passes.1, target, mem_dropped_draw.2 ⟨joins.mentions.2, passes.2⟩, joins⟩
    · rintro ⟨shown, target, dropped, joins⟩
      refine ⟨name, target, joins, ?_, rfl⟩
      simp [shown, (mem_dropped_draw.1 dropped).2]
  outbound name shown := by
    rw [outbound_draw, count_tallyEnd]
    refine GraphInput.countWhere_congr (fun source target joins => ?_)
    rw [dropped_eq_not_kept joins.mentions.2]
    have kept := shows_draw.1 shown
    by_cases here : source = name
    · simp [here, kept]
    · rw [beq_false_of_ne here, Bool.and_false, Bool.false_and]
  internal := by
    rw [internal_draw]
    refine GraphInput.countWhere_congr (fun source target joins => ?_)
    rw [dropped_eq_not_kept joins.mentions.1, dropped_eq_not_kept joins.mentions.2]
  edgeTotal :=
    edgeTotal?_eq_some_iff.2 ((sum_counts_draw input kind maxNodes).symm ▸ ⟨fits, rfl⟩)

/-- Rendering succeeds for each bound but zero, and what it draws accounts for the graph. -/
theorem render_accountsFor (input : GraphInput) (kind : ChartKind)
    (fits : input.total < wordSize) :
    (∀ maxNodes, 1 ≤ maxNodes → ∃ diagram, render input kind maxNodes = .ok diagram ∧
      diagram.kind = kind ∧ diagram.AccountsFor input maxNodes) ∧
    render input kind 0 = .error (.argument .zeroMaxNodes) := by
  refine ⟨fun maxNodes positive => ?_, rfl⟩
  exact ⟨_, render_of_fits positive fits, rfl, draw_accountsFor fits kind maxNodes⟩

/-- Two of four names are shown of a graph with a repeated edge and an edge from a name to
itself. -/
theorem render_accountsFor_loop_and_repeat :
    let input : GraphInput :=
      ⟨["main"], [⟨"main", "step", 2⟩, ⟨"step", "step", 1⟩, ⟨"main", "step", 3⟩,
        ⟨"log", "step", 1⟩, ⟨"main", "log", 4⟩, ⟨"step", "exit", 5⟩]⟩
    input.total < wordSize ∧
      (∃ diagram, render input .flow 2 = .ok diagram ∧ diagram.kind = .flow ∧
        diagram.AccountsFor input 2) ∧
      render input .flow 0 = .error (.argument .zeroMaxNodes) := by
  intro input
  have fits : input.total < wordSize := by decide +kernel
  have rendered := render_accountsFor input .flow fits
  exact ⟨fits, rendered.1 2 (by decide), rendered.2⟩

end Diagram

end CSurvey
