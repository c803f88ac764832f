import CSurvey.Proofs.Diagram.Accounts

/-!
# The degrees of a diagram

The degree of a name counts the edges from it to other names and the edges from others
to it, once for each direction.  So a name with edges in both directions counts twice,
and degrees are numbers of neighbours just where there are no such names.  What is not
shown has no larger degree than what is.
-/

namespace CSurvey

namespace GraphInput

/-- The other names to which a name has an edge or which have an edge to it. -/
def neighbours (input : GraphInput) (name : String) : Set String :=
  {other | other ≠ name ∧ (input.Joins name other ∨ input.Joins other name)}

/-- The other names to which a name has an edge and which have an edge to it. -/
def mutuals (input : GraphInput) (name : String) : Set String :=
  {other | other ≠ name ∧ input.Joins name other ∧ input.Joins other name}

theorem finite_mentions (input : GraphInput) : {name | input.Mentions name}.Finite := by
  refine (List.finite_toSet input.mentions).subset ?_
  exact fun name mentioned => mem_mentions.2 mentioned

theorem ncard_mutuals_eq_zero {input : GraphInput} {name : String} :
    (input.mutuals name).ncard = 0 ↔ input.mutuals name = ∅ :=
  Set.ncard_eq_zero (input.finite_mentions.subset (fun _ other => other.2.1.mentions.2))

end GraphInput

namespace Diagram

section Degree

variable (input : GraphInput) (name : String)

theorem countP_pairsOf (near far : String × String → String)
    (apart : ∀ first second, near first = near second → far first = far second → first = second) :
    (pairsOf input.edges).countP (fun pair => near pair.1 == name && far pair.1 != name) =
      {other | other ≠ name ∧
        ∃ ends, near ends = name ∧ far ends = other ∧ input.Joins ends.1 ends.2}.ncard := by
  refine (CallGraph.ncard_eq_countP (nodup_map_fst_pairsOf input.edges)
    (fun pair => far pair.1) ?_ ?_).symm
  · intro first second isFirst isSecond sameFar
    simp only [Bool.and_eq_true, beq_iff_eq] at isFirst isSecond
    exact apart _ _ (isFirst.1.trans isSecond.1.symm) sameFar
  · intro other
    simp only [Set.mem_ofPred, ← exists_pair_iff, Bool.and_eq_true, beq_iff_eq, bne_iff_ne]
    constructor
    · rintro ⟨different, _, rfl, rfl, pair, member, rfl⟩
      exact ⟨pair, member, ⟨rfl, different⟩, rfl⟩
    · rintro ⟨pair, member, ⟨rfl, different⟩, rfl⟩
      exact ⟨different, pair.1, rfl, rfl, pair, member, rfl⟩

/-- A degree is the number of neighbours and once more of those with edges in both directions. -/
theorem degreeOf_pairsOf : degreeOf (pairsOf input.edges) name =
    (input.neighbours name).ncard + (input.mutuals name).ncard := by
  have outgoing := countP_pairsOf input name Prod.fst Prod.snd (fun _ _ => Prod.ext)
  have incoming := countP_pairsOf input name Prod.snd Prod.fst
    (fun _ _ target source => Prod.ext source target)
  have targets : {other | other ≠ name ∧
      ∃ ends : String × String, ends.1 = name ∧ ends.2 = other ∧ input.Joins ends.1 ends.2} =
        {other | other ≠ name ∧ input.Joins name other} := by
    simp
  have sources : {other | other ≠ name ∧
      ∃ ends : String × String, ends.2 = name ∧ ends.1 = other ∧ input.Joins ends.1 ends.2} =
        {other | other ≠ name ∧ input.Joins other name} := by
    simp
  have either : input.neighbours name = {other | other ≠ name ∧ input.Joins name other} ∪
      {other | other ≠ name ∧ input.Joins other name} := by
    ext other
    exact and_or_left
  have both : input.mutuals name = {other | other ≠ name ∧ input.Joins name other} ∩
      {other | other ≠ name ∧ input.Joins other name} := by
    ext other
    exact and_and_left
  rw [degreeOf, outgoing, incoming, targets, sources, either, both]
  refine (Set.ncard_union_add_ncard_inter _ _ ?_ ?_).symm
  · exact input.finite_mentions.subset (fun _ target => target.2.mentions.2)
  · exact input.finite_mentions.subset (fun _ source => source.2.mentions.1)

end Degree

theorem pairwise_rank (pairs : List Pair) (names : List String) :
    (rank pairs names).Pairwise
      (fun first second => degreeOf pairs second ≤ degreeOf pairs first) := by
  have sorted : (Sorted.sort (fun (first second : String × Nat) => second.2 ≤ first.2)
      (names.map (fun name => (name, degreeOf pairs name)))).Pairwise
        (fun first second => second.2 ≤ first.2) := by
    refine (Sorted.sort_pairwise ?_ ?_ _).imp of_decide_eq_true
    · exact fun first second => by simpa using Nat.le_total second.2 first.2
    · exact fun first second third => by simpa using fun one two => Nat.le_trans two one
  refine List.pairwise_map.2 (sorted.imp_of_mem ?_)
  intro first second inFirst inSecond order
  have ranked {entry : String × Nat}
      (member : entry ∈ Sorted.sort (fun (first second : String × Nat) => second.2 ≤ first.2)
        (names.map (fun name => (name, degreeOf pairs name)))) :
      degreeOf pairs entry.1 = entry.2 := by
    obtain ⟨name, -, rfl⟩ := List.mem_map.1 ((Sorted.sort_perm _ _).mem_iff.1 member)
    rfl
  rwa [ranked inFirst, ranked inSecond]

/-- The degrees of the nodes are the numbers of their neighbours, and nothing that is not shown has
more neighbours. -/
structure CountsNeighbours (diagram : Diagram) (input : GraphInput) : Prop where
  degree : ∀ node ∈ diagram.nodes, node.degree = (input.neighbours node.label).ncard
  dropped : ∀ node ∈ diagram.nodes, ∀ name ∈ diagram.external.dropped,
    (input.neighbours name).ncard ≤ (input.neighbours node.label).ncard

/-- The degrees of the nodes count neighbours once for each direction, and nothing that is not shown
counts more. -/
structure CountsDirections (diagram : Diagram) (input : GraphInput) : Prop where
  degree : ∀ node ∈ diagram.nodes,
    node.degree = (input.neighbours node.label).ncard + (input.mutuals node.label).ncard
  dropped : ∀ node ∈ diagram.nodes, ∀ name ∈ diagram.external.dropped,
    (input.neighbours name).ncard + (input.mutuals name).ncard ≤ node.degree

theorem CountsDirections.countsNeighbours_iff {diagram : Diagram} {input : GraphInput}
    (counts : diagram.CountsDirections input) :
    diagram.CountsNeighbours input ↔ ∀ node ∈ diagram.nodes, input.mutuals node.label = ∅ := by
  constructor
  · intro neighbours node member
    have degree := counts.degree node member
    rw [neighbours.degree node member] at degree
    exact GraphInput.ncard_mutuals_eq_zero.1 (by omega)
  · intro noMutuals
    have degree (node) (member : node ∈ diagram.nodes) :
        node.degree = (input.neighbours node.label).ncard := by
      rw [counts.degree node member, noMutuals node member, Set.ncard_empty, Nat.add_zero]
    refine ⟨degree, fun node member name dropped => ?_⟩
    have bound := counts.dropped node member name dropped
    rw [degree node member] at bound
    omega

section Draw

variable (input : GraphInput) (kind : ChartKind) (maxNodes : Nat)

theorem draw_countsDirections : (draw input kind maxNodes).CountsDirections input where
  degree node member := by
    obtain ⟨name, -, rfl⟩ := List.mem_map.1 member
    exact degreeOf_pairsOf input name
  dropped node member name dropped := by
    obtain ⟨kept, isKept, rfl⟩ := List.mem_map.1 member
    obtain ⟨mentioned, absent⟩ := mem_dropped_draw.1 dropped
    rw [← degreeOf_pairsOf]
    have ranked : name ∈ rank (pairsOf input.edges) (namesOf input) :=
      (rank_perm _ _).mem_iff.2 (mem_namesOf.2 mentioned)
    have order := pairwise_rank (pairsOf input.edges) (namesOf input)
    rw [← List.take_append_drop maxNodes (rank (pairsOf input.edges) (namesOf input))]
      at ranked order
    exact (List.pairwise_append.1 order).2.2 kept isKept name
      ((List.mem_append.1 ranked).resolve_left absent)

end Draw

/-- A diagram counts neighbours if and only if no name that is shown has edges in both directions to
another name. -/
theorem render_countsNeighbours_iff (input : GraphInput) (kind : ChartKind) (maxNodes : Nat)
    (room : 1 ≤ maxNodes) :
    (∀ diagram, render input kind maxNodes = .ok diagram → diagram.CountsDirections input ∧
      (diagram.CountsNeighbours input ↔
        ∀ node ∈ diagram.nodes, input.mutuals node.label = ∅)) ∧
      (input.total < wordSize → ∃ diagram, render input kind maxNodes = .ok diagram) :=
  render_holds room ⟨draw_countsDirections input kind maxNodes,
    (draw_countsDirections input kind maxNodes).countsNeighbours_iff⟩

/-- The name with most neighbours has a repeated edge and one to itself, and only names that are not
shown have edges in both directions. -/
theorem render_countsNeighbours_iff_hub :
    let input : GraphInput :=
      ⟨[], [⟨"hub", "a", 1⟩, ⟨"hub", "c", 1⟩, ⟨"d", "hub", 1⟩, ⟨"hub", "a", 2⟩, ⟨"hub", "hub", 1⟩,
        ⟨"a", "b", 1⟩, ⟨"b", "a", 1⟩]⟩
    1 ≤ 1 ∧ input.total < wordSize ∧
      ∃ diagram, render input .flow 1 = .ok diagram ∧ diagram.CountsDirections input ∧
      diagram.CountsNeighbours input ∧
      diagram.nodes.map (fun node => (node.label, node.degree)) = [("hub", 3)] := by
  intro input
  have fits : input.total < wordSize := by decide +kernel
  obtain ⟨counts, rendered⟩ := render_countsNeighbours_iff input .flow 1 (by decide)
  obtain ⟨diagram, drawn⟩ := rendered fits
  obtain ⟨directions, neighbours⟩ := counts diagram drawn
  obtain rfl := eq_draw_of_render drawn
  refine ⟨by decide, fits, _, drawn, directions, neighbours.2 ?_, by decide +kernel⟩
  intro node member
  have label : node.label = "hub" := by
    have only : (draw input .flow 1).nodes.map DiagramNode.label = ["hub"] := by decide +kernel
    exact List.mem_singleton.1 (only ▸ List.mem_map_of_mem member)
  rw [label]
  refine Set.eq_empty_of_forall_notMem ?_
  have oneWay : ∀ edge ∈ input.edges, ∀ back ∈ input.edges, edge.source = "hub" →
      back.target = "hub" → back.source = edge.target → edge.target = "hub" := by decide
  rintro other ⟨different, ⟨edge, isEdge, source, rfl⟩, ⟨back, isBack, sameEnd, target⟩⟩
  exact different (oneWay edge isEdge back isBack source target sameEnd)

/-- Two names with edges to each other, and one with edges to two others: the first is shown, with
twice the number of its neighbours as its degree, and the one with more neighbours is not. -/
theorem render_counts_mutual_twice :
    let input : GraphInput :=
      ⟨[], [⟨"a", "b", 1⟩, ⟨"b", "a", 1⟩, ⟨"c", "d", 1⟩, ⟨"c", "e", 1⟩]⟩
    ∃ diagram, render input .flow 1 = .ok diagram ∧
      ¬ (∀ node ∈ diagram.nodes, node.degree = (input.neighbours node.label).ncard) ∧
      ¬ ∀ node ∈ diagram.nodes, ∀ name ∈ diagram.external.dropped,
        (input.neighbours name).ncard ≤ (input.neighbours node.label).ncard := by
  intro input
  have one : input.neighbours "a" = {"b"} := by
    ext other
    simp only [GraphInput.neighbours, GraphInput.Joins, input, Set.mem_ofPred_eq,
      Set.mem_singleton_iff, List.exists_mem_cons_iff, List.not_mem_nil]
    grind
  have two : input.neighbours "c" = {"d", "e"} := by
    ext other
    simp only [GraphInput.neighbours, GraphInput.Joins, input, Set.mem_ofPred_eq,
      Set.mem_insert_iff, Set.mem_singleton_iff, List.exists_mem_cons_iff, List.not_mem_nil]
    grind
  have shown : ∃ node ∈ (draw input .flow 1).nodes, node.label = "a" ∧ node.degree = 2 := by
    decide +kernel
  have dropped : "c" ∈ (draw input .flow 1).external.dropped := by decide +kernel
  obtain ⟨node, member, label, degree⟩ := shown
  have rendered : render input .flow 1 = .ok (draw input .flow 1) :=
    render_of_fits (by decide) (by decide +kernel)
  refine ⟨_, rendered, fun counts => ?_, fun fewer => ?_⟩
  · have same := counts node member
    rw [label, degree, one, Set.ncard_singleton] at same
    omega
  · have bound := fewer node member "c" dropped
    rw [label, one, two, Set.ncard_singleton, Set.ncard_pair (by decide)] at bound
    omega

end Diagram

end CSurvey
