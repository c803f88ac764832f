import CSurvey.Proofs.Diagram.Text

/-!
# The aggregate among the nodes

The identifiers of the nodes are chosen so that they differ from each other; that of the
aggregate is always the same.  So a node can be taken for the aggregate.  The numbers that
tell nodes apart never lead to that identifier, and a node has it exactly if its name is
spelled like it but for one character that cannot stand in an identifier.
-/

namespace CSurvey.Diagram

/-- The identifier that a line declares. -/
def Statement.declares? : Statement → Option String
  | .node id => some id
  | .aggregate id => some id
  | _ => none

/-- The aggregate is told apart from the nodes. -/
structure KeepsApart (told : List Statement) : Prop where
  apart : ∀ id, .aggregate id ∈ told → .node id ∉ told
  /-- Each identifier is declared once. -/
  once : (told.filterMap Statement.declares?).Nodup
  /-- No edge between nodes has the ends of an edge of the aggregate. -/
  edges : ∀ source target, .solid source target ∈ told → .dashed source target ∉ told

theorem KeepsApart.perm {first second : List Statement} (same : first.Perm second)
    (keeps : KeepsApart first) : KeepsApart second where
  apart id isAggregate isNode :=
    keeps.apart id (same.mem_iff.2 isAggregate) (same.mem_iff.2 isNode)
  once := (same.filterMap _).nodup_iff.1 keeps.once
  edges source target isSolid isDashed :=
    keeps.edges source target (same.mem_iff.2 isSolid) (same.mem_iff.2 isDashed)

section Apart

variable {diagram : Diagram}

theorem node_mem_told {id : String} :
    .node id ∈ diagram.told ↔ id ∈ diagram.nodes.map DiagramNode.id := by
  have aggregate : .node id ∉ diagram.toldAggregate := by
    rw [toldAggregate]
    split <;> simp
  simp [told, toldNodes, toldEdges, toldJoined, aggregate]

theorem aggregate_mem_told {id : String} :
    .aggregate id ∈ diagram.told ↔ diagram.external.isEmpty = false ∧ id = aggregateId := by
  rw [told, toldAggregate]
  cases diagram.external.isEmpty <;> simp [toldNodes, toldEdges, toldJoined]

theorem solid_mem_told {source target : String} :
    .solid source target ∈ diagram.told ↔
      ∃ edge ∈ diagram.edges, edge.source = source ∧ edge.target = target := by
  have aggregate : .solid source target ∉ diagram.toldAggregate := by
    rw [toldAggregate]
    split <;> simp
  simp [told, toldNodes, toldEdges, toldJoined, aggregate]

theorem dashed_mem_told {source target : String} :
    .dashed source target ∈ diagram.told ↔ .dashed source target ∈ diagram.toldJoined := by
  have aggregate : .dashed source target ∉ diagram.toldAggregate := by
    rw [toldAggregate]
    split <;> simp
  simp [told, toldNodes, toldEdges, aggregate]

theorem ends_of_mem_toldJoined {source target : String}
    (member : .dashed source target ∈ diagram.toldJoined) :
    source = aggregateId ∨ target = aggregateId := by
  rcases List.mem_append.1 member with outbound | inbound
  · obtain ⟨entry, -, same⟩ := List.mem_map.1 outbound
    exact Or.inr (Statement.dashed.inj same).2.symm
  · obtain ⟨entry, -, same⟩ := List.mem_map.1 inbound
    exact Or.inl (Statement.dashed.inj same).1.symm

theorem declares_told : diagram.told.filterMap Statement.declares? =
    diagram.nodes.map DiagramNode.id ++
      if diagram.external.isEmpty then [] else [aggregateId] := by
  have nodes : diagram.toldNodes.filterMap Statement.declares? =
      diagram.nodes.map DiagramNode.id := by
    rw [toldNodes, List.filterMap_map, ← List.filterMap_eq_map]
    rfl
  have aggregate : diagram.toldAggregate.filterMap Statement.declares? =
      if diagram.external.isEmpty then [] else [aggregateId] := by
    rw [toldAggregate]
    split <;> rfl
  have edges : diagram.toldEdges.filterMap Statement.declares? = [] := by
    rw [toldEdges, List.filterMap_map]
    exact List.filterMap_eq_nil_iff.2 (fun _ _ => rfl)
  have joined : diagram.toldJoined.filterMap Statement.declares? = [] := by
    rw [toldJoined, List.filterMap_append, List.filterMap_map, List.filterMap_map,
      List.append_eq_nil_iff, List.filterMap_eq_nil_iff, List.filterMap_eq_nil_iff]
    exact ⟨fun _ _ => rfl, fun _ _ => rfl⟩
  rw [told, List.filterMap_append, List.filterMap_append, List.filterMap_append, nodes, aggregate,
    edges, joined, List.append_nil, List.append_nil]

variable (legible : diagram.Legible)
include legible

theorem keepsApart_told_iff : KeepsApart diagram.told ↔
    diagram.external.isEmpty = true ∨ aggregateId ∉ diagram.nodes.map DiagramNode.id := by
  constructor
  · intro keeps
    cases nothing : diagram.external.isEmpty with
    | true => exact Or.inl rfl
    | false =>
      have isAggregate : .aggregate aggregateId ∈ diagram.told :=
        aggregate_mem_told.2 ⟨nothing, rfl⟩
      exact Or.inr (fun isNode => keeps.apart _ isAggregate (node_mem_told.2 isNode))
  · intro apart
    refine ⟨fun id isAggregate isNode => ?_, ?_, fun source target isSolid isDashed => ?_⟩
    · obtain ⟨something, rfl⟩ := aggregate_mem_told.1 isAggregate
      rw [something] at apart
      exact apart.resolve_left Bool.false_ne_true (node_mem_told.1 isNode)
    · rw [declares_told]
      split
      · simpa using legible.distinct
      · rename_i something
        refine List.nodup_append.2 ⟨legible.distinct, List.nodup_singleton _, ?_⟩
        rintro id isNode _ isAggregate rfl
        rw [List.mem_singleton] at isAggregate
        exact apart.resolve_left something (isAggregate ▸ isNode)
    · rw [dashed_mem_told] at isDashed
      have something : diagram.external.isEmpty ≠ true := by
        intro nothing
        rw [legible.toldJoined_eq_nil nothing] at isDashed
        exact List.not_mem_nil isDashed
      obtain ⟨edge, isEdge, rfl, rfl⟩ := solid_mem_told.1 isSolid
      have notNode := apart.resolve_left something
      obtain ⟨source, target⟩ := legible.ends edge isEdge
      rcases ends_of_mem_toldJoined isDashed with same | same
      · exact notNode (same ▸ source)
      · exact notNode (same ▸ target)

end Apart

/-- A name that is spelled like the identifier of the aggregate, with any sign or blank between the
words. -/
def LooksAggregate (name : String) : Prop :=
  ∃ c, c.isAlphanum = false ∧ name.toList = "external".toList ++ c :: "calls".toList

section Names

/-- What cannot stand in an identifier, replaced. -/
theorem eq_of_map_eq {cs word : List Char} (letters : '_' ∉ word)
    (same : cs.map (fun c => if NameHints.isIdChar c then c else '_') = word) : cs = word := by
  rw [← same]
  refine (List.map_id cs).symm.trans (List.map_congr_left (fun c member => ?_))
  by_cases kept : NameHints.isIdChar c = true
  · exact (if_pos kept).symm
  · refine absurd ?_ letters
    rw [← same, List.mem_map]
    exact ⟨c, member, if_neg kept⟩

/-- No letter is put in front of the identifier of the aggregate. -/
theorem diagramId_eq_iff {name : String} : NameHints.diagramId name = aggregateId ↔
    name.toList.map (fun c => if NameHints.isIdChar c then c else '_') = aggregateId.toList := by
  rw [← String.toList_inj]
  unfold NameHints.diagramId
  generalize name.toList.map (fun c => if NameHints.isIdChar c then c else '_') = chars
  have begins : aggregateId.toList = 'e' :: "xternal_calls".toList := by decide
  rw [begins]
  cases chars with
  | nil => simp
  | cons c rest =>
    dsimp only
    split
    · rename_i digit
      refine iff_of_false (fun same => ?_) (fun same => ?_)
      · simp at same
      · rw [(List.cons.inj same).1] at digit
        cases digit
    · rw [String.toList_ofList]

theorem diagramId_eq_aggregateId {name : String} :
    NameHints.diagramId name = aggregateId ↔ LooksAggregate name := by
  have spelled : aggregateId.toList = "external".toList ++ '_' :: "calls".toList := by decide
  have replaced (c : Char) : (if NameHints.isIdChar c then c else '_') = '_' ↔
      c.isAlphanum = false := by
    rw [NameHints.isIdChar]
    by_cases blank : c = '_'
    · simp [blank]
    · simp [blank]
  rw [diagramId_eq_iff, spelled]
  constructor
  · intro same
    obtain ⟨front, back, split, isFront, isBack⟩ := List.map_eq_append_iff.1 same
    obtain ⟨c, back, rfl, isBlank, isCalls⟩ := List.map_eq_cons_iff.1 isBack
    obtain rfl := eq_of_map_eq (by decide) isFront
    obtain rfl := eq_of_map_eq (by decide) isCalls
    exact ⟨c, (replaced c).1 isBlank, split⟩
  · rintro ⟨c, other, chars⟩
    rw [chars, List.map_append, List.map_cons, (replaced c).2 other]
    rfl

instance : DecidablePred LooksAggregate := fun _ =>
  decidable_of_iff _ diagramId_eq_aggregateId

/-- A number is behind no name with the identifier of the aggregate. -/
theorem candidate_eq_aggregateId {base : String} {number : Nat}
    (same : candidate base number = aggregateId) : base = aggregateId := by
  cases number with
  | zero => exact same
  | succ number =>
    have chars := congrArg (fun id => id.toList.getLast?) same
    simp only [candidate, toList_numberedId] at chars
    obtain ⟨digit, isLast⟩ : ∃ digit, (Nat.toDigits 10 (number + 2)).getLast? = some digit :=
      Option.ne_none_iff_exists'.1 (by simp [Nat.toDigits_ne_nil])
    have isDigit := Nat.isDigit_of_mem_toDigits (by decide) (by decide)
      (List.mem_of_getLast? isLast)
    rw [List.getLast?_append, List.getLast?_cons, isLast, Option.getD_some] at chars
    have last : aggregateId.toList.getLast? = some 's' := by decide
    rw [last, Option.some_or, Option.some.injEq] at chars
    rw [chars] at isDigit
    cases isDigit

/-- Among names that have identifiers, one has that of the aggregate if one looks like it. -/
theorem Identified.aggregateId_mem_iff {names : List String} {ids : List (String × String)}
    (identified : Identified names ids) :
    aggregateId ∈ ids.map (·.2) ↔ ∃ name ∈ names, LooksAggregate name := by
  rw [← identified.names]
  constructor
  · intro member
    obtain ⟨entry, isEntry, same⟩ := List.mem_map.1 member
    obtain ⟨front, back, split⟩ := List.append_of_mem isEntry
    obtain ⟨number, -, value⟩ :=
      exists_isLeast_firstNew (front.map (·.2)) (NameHints.diagramId entry.1) 0
    rw [identified.turns front entry back split, value] at same
    exact ⟨entry.1, List.mem_map_of_mem isEntry,
      diagramId_eq_aggregateId.1 (candidate_eq_aggregateId same)⟩
  · rintro ⟨name, isName, looks⟩
    obtain ⟨entry, isEntry, rfl⟩ := List.mem_map.1 isName
    obtain ⟨front, back, split⟩ := List.append_of_mem isEntry
    have turn := identified.turns front entry back split
    rw [diagramId_eq_aggregateId.2 looks, firstNew] at turn
    -- Either a name before this one has it already, or this one gets it.
    split at turn
    · rename_i inUse
      rw [split, List.map_append]
      exact List.mem_append_left _ inUse
    · exact List.mem_map.2 ⟨entry, isEntry, turn⟩

end Names

section Draw

variable {input : GraphInput} {kind : ChartKind} {maxNodes : Nat}

theorem walk_group (name : String) :
    Standing.walk .outside (NameHints.group name).toList = some .outside := by
  have plain : ∀ group ∈ "core" :: NameHints.groupTable.map (·.2),
      Standing.walk .outside group.toList = some .outside := by decide +kernel
  refine plain _ ?_
  rw [NameHints.group]
  split
  · rename_i entry found
    exact List.mem_cons_of_mem _ (List.mem_map_of_mem (List.mem_of_find?_eq_some found))
  · exact List.mem_cons_self ..

/-- If nothing is dropped, no edge leads to anything dropped or from it. -/
theorem joined_draw_of_isEmpty
    (nothing : (draw input kind maxNodes).external.isEmpty = true) :
    (draw input kind maxNodes).joined (draw input kind maxNodes).external.outbound = [] ∧
      (draw input kind maxNodes).joined (draw input kind maxNodes).external.inbound = [] := by
  have kept {name : String} (mentioned : input.Mentions name) :
      (keptOf input maxNodes).contains name = true := by
    have dropped : decide (name ∈ (draw input kind maxNodes).external.dropped) =
        !(keptOf input maxNodes).contains name := dropped_eq_not_kept mentioned
    rw [ExternalAggregate.isEmpty, List.isEmpty_iff] at nothing
    simpa [nothing] using dropped
  have both {pair : Pair} (member : pair ∈ pairsOf input.edges) :
      (keptOf input maxNodes).contains pair.1.1 = true ∧
        (keptOf input maxNodes).contains pair.1.2 = true := by
    have joins := mem_map_fst_pairsOf.1 (List.mem_map_of_mem member)
    exact ⟨kept joins.mentions.1, kept joins.mentions.2⟩
  have outbound : (pairsOf input.edges).filter (fun pair =>
      (keptOf input maxNodes).contains pair.1.1 &&
        !(keptOf input maxNodes).contains pair.1.2) = [] :=
    List.filter_eq_nil_iff.2 (fun pair member => by
      rw [(both member).2, Bool.not_true, Bool.and_false]
      exact Bool.false_ne_true)
  have inbound : (pairsOf input.edges).filter (fun pair =>
      !(keptOf input maxNodes).contains pair.1.1 &&
        (keptOf input maxNodes).contains pair.1.2) = [] :=
    List.filter_eq_nil_iff.2 (fun pair member => by
      rw [(both member).1, Bool.not_true, Bool.false_and]
      exact Bool.false_ne_true)
  rw [keptOf] at outbound inbound
  constructor
  · simp only [joined, draw, aggregate, outbound]
    rfl
  · simp only [joined, draw, aggregate, inbound]
    rfl

theorem legible_draw : (draw input kind maxNodes).Legible where
  ids node member := by
    have identified := (draw_identifies input kind maxNodes).assigned
    exact identified.identifiers (node.label, node.id) (List.mem_map_of_mem member)
  distinct := by
    rw [ids_draw]
    exact nodup_map_idIn (nodup_keptOf input maxNodes)
  groups node member := by
    obtain ⟨name, -, rfl⟩ := List.mem_map.1 member
    dsimp only
    split
    · decide
    · exact walk_group name
  ends edge member := by
    rw [edges_draw] at member
    obtain ⟨pair, found, rfl⟩ := List.mem_map.1 member
    have kept := (List.mem_filter.1 found).2
    simp only [Bool.and_eq_true, List.contains_eq_mem, decide_eq_true_eq] at kept
    rw [ids_draw]
    exact ⟨List.mem_map_of_mem kept.1, List.mem_map_of_mem kept.2⟩
  nothing := joined_draw_of_isEmpty

theorem keepsApart_told_draw_iff : KeepsApart (draw input kind maxNodes).told ↔
    (draw input kind maxNodes).external.dropped = [] ∨
      ∀ node ∈ (draw input kind maxNodes).nodes, ¬ LooksAggregate node.label := by
  have identified := (draw_identifies input kind maxNodes).assigned.aggregateId_mem_iff
  have ids : ((draw input kind maxNodes).nodes.map (fun node => (node.label, node.id))).map (·.2) =
      (draw input kind maxNodes).nodes.map DiagramNode.id := List.map_map
  rw [ids] at identified
  rw [keepsApart_told_iff legible_draw, identified, ExternalAggregate.isEmpty, List.isEmpty_iff]
  simp

end Draw

/-- Each diagram says what there is to say, in either language, and keeps the aggregate apart from
the nodes unless there is one and a name that looks like it is shown. -/
theorem render_keepsApart_iff (input : GraphInput) (kind : ChartKind) (maxNodes : Nat)
    (room : 1 ≤ maxNodes) :
    (∀ diagram, render input kind maxNodes = .ok diagram →
      readDot diagram.dot = diagram.told ∧
      (KeepsApart (readDot diagram.dot) ↔
        diagram.external.dropped = [] ∨ ∀ node ∈ diagram.nodes, ¬ LooksAggregate node.label) ∧
      (kind ≠ .mindMap →
        (readMermaid diagram.mermaid).Perm diagram.told ∧
        (KeepsApart (readMermaid diagram.mermaid) ↔
          diagram.external.dropped = [] ∨
            ∀ node ∈ diagram.nodes, ¬ LooksAggregate node.label))) ∧
      (input.total < wordSize → ∃ diagram, render input kind maxNodes = .ok diagram) := by
  have dot : readDot (draw input kind maxNodes).dot = (draw input kind maxNodes).told :=
    readDot_dot legible_draw
  refine render_holds room ⟨dot, ?_, fun graph => ?_⟩
  · rw [dot]
    exact keepsApart_told_draw_iff
  · have mermaid : (readMermaid (draw input kind maxNodes).mermaid).Perm
        (draw input kind maxNodes).told := readMermaid_mermaid legible_draw graph
    exact ⟨mermaid, (Iff.intro (.perm mermaid) (.perm mermaid.symm)).trans
      keepsApart_told_draw_iff⟩

/-- Two of three names are shown, one of them with the identifier of the aggregate: both are
declared, and the edge between the names shown is drawn like the one from the name dropped. -/
theorem render_merges_aggregate :
    let input : GraphInput :=
      ⟨[], [⟨"external_calls", "b", 1⟩, ⟨"external_calls", "c", 1⟩, ⟨"c", "b", 1⟩]⟩
    ∃ diagram, render input .flow 2 = .ok diagram ∧
      readMermaid diagram.mermaid =
        [.node "external_calls", .node "b", .solid "external_calls" "b",
          .aggregate "external_calls", .dashed "external_calls" "external_calls",
          .dashed "external_calls" "b"] ∧
      ¬ KeepsApart (readMermaid diagram.mermaid) ∧ ¬ KeepsApart (readDot diagram.dot) := by
  intro input
  let diagram := draw input .flow 2
  have read : readMermaid diagram.mermaid = diagram.toldNodes ++ diagram.toldEdges ++
      (diagram.toldAggregate ++ diagram.toldJoined) :=
    readMermaid_mermaidGraph legible_draw (by decide +kernel) (by decide +kernel)
  have told : diagram.toldNodes ++ diagram.toldEdges ++
      (diagram.toldAggregate ++ diagram.toldJoined) =
        [.node "external_calls", .node "b", .solid "external_calls" "b",
          .aggregate "external_calls", .dashed "external_calls" "external_calls",
          .dashed "external_calls" "b"] := by
    decide +kernel
  rw [told] at read
  have merged : ¬ KeepsApart (readMermaid diagram.mermaid) := by
    rw [read]
    exact fun keeps => keeps.apart "external_calls" (by simp) (by simp)
  have rendered : render input .flow 2 = .ok diagram :=
    render_of_fits (by decide) (by decide +kernel)
  refine ⟨diagram, rendered, read, merged, fun keeps => merged ?_⟩
  rw [readDot_dot legible_draw] at keeps
  exact keeps.perm (readMermaid_mermaid legible_draw (by decide)).symm

/-- Names that are nearly spelled like the identifier of the aggregate, one of them with quotes and
a line feed, and something dropped. -/
theorem render_keepsApart_iff_quoted :
    let input : GraphInput :=
      ⟨["external_calls_", "external_call"], [⟨"external_calls_", "\"]\nexternal_calls[\"", 2⟩,
        ⟨"external_calls_", "external_call", 1⟩, ⟨"external_call", "c", 1⟩]⟩
    1 ≤ 3 ∧ input.total < wordSize ∧ ∃ diagram, render input .hierarchy 3 = .ok diagram ∧
      diagram.nodes.map DiagramNode.id =
        ["external_calls_", "external_call", "___external_calls__"] ∧
      diagram.external.dropped = ["c"] ∧ (readMermaid diagram.mermaid).Perm diagram.told ∧
      KeepsApart (readMermaid diagram.mermaid) ∧ KeepsApart (readDot diagram.dot) := by
  intro input
  have fits : input.total < wordSize := by decide +kernel
  obtain ⟨keeps, rendered⟩ := render_keepsApart_iff input .hierarchy 3 (by decide)
  obtain ⟨diagram, drawn⟩ := rendered fits
  obtain ⟨-, dot, graph⟩ := keeps diagram drawn
  obtain rfl := eq_draw_of_render drawn
  obtain ⟨read, mermaid⟩ := graph (by decide)
  have apart : ∀ node ∈ (draw input .hierarchy 3).nodes, ¬ LooksAggregate node.label := by
    decide +kernel
  exact ⟨by decide, fits, _, drawn, by decide +kernel, by decide +kernel, read,
    mermaid.2 (Or.inr apart), dot.2 (Or.inr apart)⟩

end CSurvey.Diagram
