import CSurvey.Proofs.Diagram.Reader

/-!
# What the text of a diagram says

Read back, the text of a diagram declares its nodes and the aggregate, and it draws the
edges between nodes and those of the aggregate.  Each line is read on its own: a label is
the only part of it that can hold a quote or a line feed, and it ends where it should.
-/

namespace CSurvey.Diagram

section Told

variable (diagram : Diagram)

def toldNodes : List Statement :=
  diagram.nodes.map (fun node => .node node.id)

def toldAggregate : List Statement :=
  if diagram.external.isEmpty then [] else [.aggregate aggregateId]

def toldEdges : List Statement :=
  diagram.edges.map (fun edge => .solid edge.source edge.target)

/-- The edges of the aggregate: first those that lead to it. -/
def toldJoined : List Statement :=
  (diagram.joined diagram.external.outbound).map (fun entry => .dashed entry.1 aggregateId) ++
    (diagram.joined diagram.external.inbound).map (fun entry => .dashed aggregateId entry.1)

/-- What a diagram has to declare and to draw. -/
def told : List Statement :=
  diagram.toldNodes ++ diagram.toldAggregate ++ diagram.toldEdges ++ diagram.toldJoined

end Told

/-- A diagram whose text can be read back. -/
structure Legible (diagram : Diagram) : Prop where
  ids : ∀ node ∈ diagram.nodes, IsIdentifier node.id
  distinct : (diagram.nodes.map DiagramNode.id).Nodup
  groups : ∀ node ∈ diagram.nodes, Standing.walk .outside node.group.toList = some .outside
  ends : ∀ edge ∈ diagram.edges, edge.source ∈ diagram.nodes.map DiagramNode.id ∧
    edge.target ∈ diagram.nodes.map DiagramNode.id
  /-- An aggregate of nothing has no edges. -/
  nothing : diagram.external.isEmpty = true →
    diagram.joined diagram.external.outbound = [] ∧ diagram.joined diagram.external.inbound = []

/-- A reader finds what is told in some lines, and ends outside of quotes after each. -/
structure Reads (statement? : List Char → Option Statement) (lines : List String)
    (told : List Statement) : Prop where
  closed : ∀ line ∈ lines, Standing.walk .outside line.toList = some .outside
  said : (lines.map String.toList).filterMap statement? = told

namespace Reads

variable {statement? : List Char → Option Statement} {α : Type}

theorem append {first second : List String} {told more : List Statement}
    (reads : Reads statement? first told) (after : Reads statement? second more) :
    Reads statement? (first ++ second) (told ++ more) where
  closed line member := (List.mem_append.1 member).elim (reads.closed line) (after.closed line)
  said := by rw [List.map_append, List.filterMap_append, reads.said, after.said]

theorem nil : Reads statement? [] [] :=
  ⟨List.forall_mem_nil _, rfl⟩

theorem map {items : List α} {line : α → String} {tell : α → Statement}
    (each : ∀ item ∈ items, Standing.walk .outside (line item).toList = some .outside ∧
      statement? (line item).toList = some (tell item)) :
    Reads statement? (items.map line) (items.map tell) where
  closed := List.forall_mem_map.2 (fun item member => (each item member).1)
  said := by
    rw [List.map_map, List.filterMap_map, ← List.filterMap_eq_map]
    exact List.filterMap_congr (fun item member => (each item member).2)

theorem one {line : String} {tell : Statement}
    (closed : Standing.walk .outside line.toList = some .outside)
    (said : statement? line.toList = some tell) : Reads statement? [line] [tell] where
  closed := List.forall_mem_singleton.2 closed
  said := by rw [List.map_singleton, List.filterMap_cons_some said, List.filterMap_nil]

theorem orNothing {lines : List String} {told : List Statement}
    (reads : Reads statement? lines told) (test : Bool) :
    Reads statement? (if test then [] else lines) (if test then [] else told) := by
  cases test with
  | true => exact .nil
  | false => exact reads

/-- Lines that say nothing. -/
theorem silent {lines : List String}
    (each : ∀ line ∈ lines, Standing.walk .outside line.toList = some .outside ∧
      statement? line.toList = none) : Reads statement? lines [] where
  closed line member := (each line member).1
  said := by
    rw [List.filterMap_map, List.filterMap_eq_nil_iff]
    exact fun line member => (each line member).2

theorem filterMap_linesFrom {lines : List String} {told : List Statement}
    (reads : Reads statement? lines told) :
    (linesFrom .outside [] (unlines lines).toList).filterMap statement? = told := by
  rw [linesFrom_unlines reads.closed, reads.said]

end Reads

theorem isIdentifier_aggregateId : IsIdentifier aggregateId :=
  isIdentifier_of_all (by decide : _ = 'e' :: "xternal_calls".toList) (by decide) (by decide)

section Lines

theorem isIdChar_blank : NameHints.isIdChar ' ' = false := by
  decide

theorem isIdChar_bracket : NameHints.isIdChar '[' = false ∧ NameHints.isIdChar '(' = false := by
  decide

theorem plain_of_mem_toDigits {number : Nat} {c : Char} (member : c ∈ Nat.toDigits 10 number) :
    c ≠ '"' ∧ c ≠ '\n' ∧ c ≠ '\\' := by
  have digit := Nat.isDigit_of_mem_toDigits (by decide) (by decide) member
  refine ⟨?_, ?_, ?_⟩ <;>
    · rintro rfl
      simp at digit

@[simp]
theorem walk_outside_toDigits (number : Nat) :
    Standing.walk .outside (Nat.toDigits 10 number) = some .outside :=
  walk_outside (fun _ member =>
    ⟨(plain_of_mem_toDigits member).1, (plain_of_mem_toDigits member).2.1⟩)

@[simp]
theorem walk_inside_toDigits (number : Nat) :
    Standing.walk .inside (Nat.toDigits 10 number) = some .inside :=
  walk_inside (fun _ member =>
    ⟨(plain_of_mem_toDigits member).1, (plain_of_mem_toDigits member).2.2⟩)

variable {id source target : String} (identifier : IsIdentifier id)
  (isSource : IsIdentifier source) (isTarget : IsIdentifier target) (count : Nat)

section Mermaid

include identifier in
theorem mermaid_node (label : String) :
    Standing.walk .outside s!"    {id}[\"{escapeLabel label}\"]".toList = some .outside ∧
      mermaidStatement? s!"    {id}[\"{escapeLabel label}\"]".toList = some (.node id) := by
  constructor
  · simp [toString, walk_append, Standing.walk, Standing.next, identifier.walk, walk_escapeLabel]
  · simp [toString, mermaidStatement?, firstWord_blank,
      firstWord_append identifier isIdChar_bracket.1, opens]

theorem mermaid_aggregate :
    Standing.walk .outside s!"    {aggregateId}((\"{count} more\"))".toList = some .outside ∧
      mermaidStatement? s!"    {aggregateId}((\"{count} more\"))".toList =
        some (.aggregate aggregateId) := by
  constructor
  · simp [toString, walk_append, Standing.walk, Standing.next, isIdentifier_aggregateId.walk]
  · simp [toString, mermaidStatement?, firstWord_blank,
      firstWord_append isIdentifier_aggregateId isIdChar_bracket.2, opens]

include isSource isTarget

/-- A line with an arrow is read at both ends. -/
theorem mermaid_arrow {line : String} {arrow : List Char}
    (text : line.toList = "    ".toList ++ (source.toList ++ ' ' :: (arrow ++ ' ' :: target.toList)))
    (plain : Standing.walk .outside arrow = some .outside) :
    Standing.walk .outside line.toList = some .outside ∧
      firstWord line.toList = (source, ' ' :: (arrow ++ ' ' :: target.toList)) ∧
      lastWord line.toList = target := by
  refine ⟨?_, ?_, ?_⟩
  · simp [text, walk_append, Standing.walk, Standing.next, isSource.walk, isTarget.walk, plain]
  · simp [text, firstWord_blank, firstWord_append isSource isIdChar_blank]
  · have split : line.toList =
        ("    ".toList ++ (source.toList ++ ' ' :: arrow)) ++ ' ' :: target.toList := by
      rw [text]
      simp
    rw [split, lastWord_append _ (List.mem_cons_self ..), lastWord_blank isTarget]

theorem mermaid_solid :
    Standing.walk .outside (if 1 < count then s!"    {source} -->|{count}| {target}"
      else s!"    {source} --> {target}").toList = some .outside ∧
    mermaidStatement? (if 1 < count then s!"    {source} -->|{count}| {target}"
      else s!"    {source} --> {target}").toList = some (.solid source target) := by
  split
  · obtain ⟨closed, word, last⟩ := mermaid_arrow isSource isTarget
      (show s!"    {source} -->|{count}| {target}".toList = "    ".toList ++ (source.toList ++
        ' ' :: (("-->|".toList ++ (Nat.toDigits 10 count ++ ['|'])) ++ ' ' :: target.toList)) by
          simp [toString])
      (by simp [walk_append, Standing.walk, Standing.next])
    rw [mermaidStatement?, word, last]
    exact ⟨closed, by simp [opens]⟩
  · obtain ⟨closed, word, last⟩ := mermaid_arrow isSource isTarget
      (show s!"    {source} --> {target}".toList = "    ".toList ++ (source.toList ++
        ' ' :: ("-->".toList ++ ' ' :: target.toList)) by simp [toString])
      (by decide)
    rw [mermaidStatement?, word, last]
    exact ⟨closed, by simp [opens]⟩

theorem mermaid_dashed :
    Standing.walk .outside s!"    {source} -.->|{count}| {target}".toList = some .outside ∧
    mermaidStatement? s!"    {source} -.->|{count}| {target}".toList =
      some (.dashed source target) := by
  obtain ⟨closed, word, last⟩ := mermaid_arrow isSource isTarget
    (show s!"    {source} -.->|{count}| {target}".toList = "    ".toList ++ (source.toList ++
      ' ' :: (("-.->|".toList ++ (Nat.toDigits 10 count ++ ['|'])) ++ ' ' :: target.toList)) by
        simp [toString])
    (by simp [walk_append, Standing.walk, Standing.next])
  rw [mermaidStatement?, word, last]
  exact ⟨closed, by simp [opens]⟩

omit isSource isTarget in
include identifier in
/-- The group of a node is nothing that is declared or drawn. -/
theorem mermaid_class {group : String}
    (plain : Standing.walk .outside group.toList = some .outside) :
    Standing.walk .outside s!"    class {id} {group}".toList = some .outside ∧
      mermaidStatement? s!"    class {id} {group}".toList = none := by
  constructor
  · simp [toString, walk_append, Standing.walk, Standing.next, identifier.walk, plain]
  · obtain ⟨first, rest, chars, -, notDash⟩ := identifier.exists_first
    have text : s!"    class {id} {group}".toList =
        "    ".toList ++ ("class".toList ++ ' ' :: first :: (rest ++ ' ' :: group.toList)) := by
      simp [toString, chars]
    have isWord : IsIdentifier "class" :=
      isIdentifier_of_all (by decide : _ = 'c' :: "lass".toList) (by decide) (by decide)
    have word : firstWord s!"    class {id} {group}".toList =
        ("class", ' ' :: first :: (rest ++ ' ' :: group.toList)) := by
      rw [text, ← firstWord_append isWord isIdChar_blank]
      rfl
    rw [mermaidStatement?, word]
    simp [opens, Ne.symm notDash]

end Mermaid

section Dot

include identifier in
theorem dot_node (label : String) {color : String}
    (plain : Standing.walk .outside color.toList = some .outside) :
    Standing.walk .outside
        s!"  {id} [label=\"{escapeLabel label}\", fillcolor={color}];".toList = some .outside ∧
      dotStatement? s!"  {id} [label=\"{escapeLabel label}\", fillcolor={color}];".toList =
        some (.node id) := by
  constructor
  · simp [toString, walk_append, Standing.walk, Standing.next, identifier.walk, walk_escapeLabel,
      plain]
  · simp [toString, dotStatement?, firstWord_blank, firstWord_append identifier isIdChar_blank,
      opens, afterLabel_escapeLabel]

theorem dot_aggregate :
    Standing.walk .outside (s!"  {aggregateId} [label=\"{count} more\", " ++
        "shape=ellipse, fillcolor=lightgrey];").toList = some .outside ∧
      dotStatement? (s!"  {aggregateId} [label=\"{count} more\", " ++
        "shape=ellipse, fillcolor=lightgrey];").toList = some (.aggregate aggregateId) := by
  have number (rest : List Char) :
      afterLabel .inside (Nat.toDigits 10 count ++ rest) = afterLabel .inside rest :=
    afterLabel_append (fun _ member =>
      ⟨(plain_of_mem_toDigits member).1, (plain_of_mem_toDigits member).2.2⟩) rest
  have shape : Standing.walk .outside "shape=ellipse, fillcolor=lightgrey];".toList =
      some .outside := by decide
  constructor
  · rw [String.toList_append, walk_append]
    simp only [Option.bind_eq_some_iff]
    refine ⟨.outside, ?_, shape⟩
    simp [toString, walk_append, Standing.walk, Standing.next, isIdentifier_aggregateId.walk]
  · simp [toString, dotStatement?, firstWord_blank,
      firstWord_append isIdentifier_aggregateId isIdChar_blank, opens, number, afterLabel,
      Standing.next]

include isSource isTarget

theorem dot_solid :
    Standing.walk .outside s!"  {source} -> {target} [label=\"{count}\"];".toList =
        some .outside ∧
      dotStatement? s!"  {source} -> {target} [label=\"{count}\"];".toList =
        some (.solid source target) := by
  constructor
  · simp [toString, walk_append, Standing.walk, Standing.next, isSource.walk, isTarget.walk]
  · simp [toString, dotStatement?, firstWord_blank, firstWord_append isSource isIdChar_blank,
      firstWord_append isTarget isIdChar_blank, opens]

theorem dot_dashed :
    Standing.walk .outside s!"  {source} -> {target} [style=dashed, label=\"{count}\"];".toList =
        some .outside ∧
      dotStatement? s!"  {source} -> {target} [style=dashed, label=\"{count}\"];".toList =
        some (.dashed source target) := by
  constructor
  · simp [toString, walk_append, Standing.walk, Standing.next, isSource.walk, isTarget.walk]
  · simp [toString, dotStatement?, firstWord_blank, firstWord_append isSource isIdChar_blank,
      firstWord_append isTarget isIdChar_blank, opens]

end Dot

end Lines

section Read

variable {diagram : Diagram}

theorem mem_ids_of_mem_joined {counts : Tally} {entry : String × Nat}
    (member : entry ∈ diagram.joined counts) : entry.1 ∈ diagram.nodes.map DiagramNode.id := by
  obtain ⟨counted, -, found⟩ := List.mem_filterMap.1 member
  obtain ⟨id, isId, rfl⟩ := Option.map_eq_some_iff.1 found
  obtain ⟨node, isNode, rfl⟩ := Option.map_eq_some_iff.1 isId
  exact List.mem_map_of_mem (List.mem_reverse.1 (List.mem_of_find?_eq_some isNode))

theorem walk_groupColor (group : String) :
    Standing.walk .outside (groupColor group).toList = some .outside := by
  have colors : groupColor group ∈ ["lightblue", "lightsalmon", "khaki", "palegreen", "plum",
      "lightgrey", "white"] := by
    unfold groupColor
    grind
  have plain : ∀ color ∈ ["lightblue", "lightsalmon", "khaki", "palegreen", "plum", "lightgrey",
      "white"], Standing.walk .outside color.toList = some .outside := by decide +kernel
  exact plain _ colors

variable (legible : diagram.Legible)
include legible

theorem Legible.identifier {id : String} (member : id ∈ diagram.nodes.map DiagramNode.id) :
    IsIdentifier id := by
  obtain ⟨node, isNode, rfl⟩ := List.mem_map.1 member
  exact legible.ids node isNode

theorem Legible.toldJoined_eq_nil (nothing : diagram.external.isEmpty = true) :
    diagram.toldJoined = [] := by
  rw [toldJoined, (legible.nothing nothing).1, (legible.nothing nothing).2, List.map_nil,
    List.map_nil, List.append_nil]

theorem Legible.toldExternal_eq :
    diagram.toldAggregate ++ diagram.toldJoined =
      if diagram.external.isEmpty then [] else [.aggregate aggregateId] ++
        (diagram.joined diagram.external.outbound).map
          (fun entry => .dashed entry.1 aggregateId) ++
        (diagram.joined diagram.external.inbound).map
          (fun entry => .dashed aggregateId entry.1) := by
  rw [toldAggregate]
  split
  · rename_i nothing
    exact legible.toldJoined_eq_nil nothing
  · exact (List.append_assoc ..).symm

/-- A graph for Mermaid says what there is to say, the edges of the aggregate right behind it. -/
theorem readMermaid_mermaidGraph {heading : String}
    (closed : Standing.walk .outside heading.toList = some .outside)
    (silent : mermaidStatement? heading.toList = none) :
    readMermaid (diagram.mermaidGraph heading) =
      diagram.toldNodes ++ diagram.toldEdges ++ (diagram.toldAggregate ++ diagram.toldJoined) := by
  have head : Reads mermaidStatement? [heading] [] :=
    .silent (List.forall_mem_singleton.2 ⟨closed, silent⟩)
  have nodes : Reads mermaidStatement? (diagram.nodes.map _) diagram.toldNodes :=
    .map (fun node isNode => mermaid_node (legible.ids node isNode) node.label)
  have edges : Reads mermaidStatement? (diagram.edges.map _) diagram.toldEdges :=
    .map (fun edge isEdge => mermaid_solid (legible.identifier (legible.ends edge isEdge).1)
      (legible.identifier (legible.ends edge isEdge).2) edge.count)
  have outbound : Reads mermaidStatement? ((diagram.joined diagram.external.outbound).map _) _ :=
    .map (fun entry member => mermaid_dashed (legible.identifier (mem_ids_of_mem_joined member))
      isIdentifier_aggregateId entry.2)
  have inbound : Reads mermaidStatement? ((diagram.joined diagram.external.inbound).map _) _ :=
    .map (fun entry member => mermaid_dashed isIdentifier_aggregateId
      (legible.identifier (mem_ids_of_mem_joined member)) entry.2)
  have aggregate : Reads mermaidStatement? [_] [.aggregate aggregateId] :=
    .one (mermaid_aggregate diagram.external.dropped.length).1
      (mermaid_aggregate diagram.external.dropped.length).2
  have classes : Reads mermaidStatement? (diagram.nodes.map _) [] :=
    .silent (List.forall_mem_map.2 (fun node isNode =>
      mermaid_class (legible.ids node isNode) (legible.groups node isNode)))
  have external := ((aggregate.append outbound).append inbound).orNothing diagram.external.isEmpty
  have told : (if diagram.external.isEmpty then [] else _) =
      diagram.toldAggregate ++ diagram.toldJoined := legible.toldExternal_eq.symm
  have all := (((head.append nodes).append edges).append external).append classes
  rw [told, List.nil_append, List.append_nil] at all
  exact all.filterMap_linesFrom

/-- The text for Graphviz says what there is to say, the aggregate right behind the nodes. -/
theorem readDot_dot : readDot diagram.dot = diagram.told := by
  have heads : Reads dotStatement? ["digraph revscope \x7b",
      if diagram.kind == .hierarchy then "  rankdir=LR;" else "  rankdir=TB;"] [] := by
    split <;> exact .silent (by decide +kernel)
  have layout : Reads dotStatement?
      (if diagram.kind == .mindMap then ["  layout=twopi;"] else []) [] := by
    split
    · exact .silent (by decide +kernel)
    · exact .nil
  have style : Reads dotStatement?
      ["  node [shape=box, style=filled, fontname=\"JetBrains Mono\"];", ""] [] :=
    .silent (by decide +kernel)
  have blank : Reads dotStatement? [""] [] := .silent (by decide +kernel)
  have close : Reads dotStatement? ["\x7d"] [] := .silent (by decide +kernel)
  have nodes : Reads dotStatement? (diagram.nodes.map _) diagram.toldNodes :=
    .map (fun node isNode => dot_node (legible.ids node isNode) node.label
      (walk_groupColor node.group))
  have edges : Reads dotStatement? (diagram.edges.map _) diagram.toldEdges :=
    .map (fun edge isEdge => dot_solid (legible.identifier (legible.ends edge isEdge).1)
      (legible.identifier (legible.ends edge isEdge).2) edge.count)
  have outbound : Reads dotStatement? ((diagram.joined diagram.external.outbound).map _) _ :=
    .map (fun entry member => dot_dashed (legible.identifier (mem_ids_of_mem_joined member))
      isIdentifier_aggregateId entry.2)
  have inbound : Reads dotStatement? ((diagram.joined diagram.external.inbound).map _) _ :=
    .map (fun entry member => dot_dashed isIdentifier_aggregateId
      (legible.identifier (mem_ids_of_mem_joined member)) entry.2)
  have aggregate : Reads dotStatement? [_] [.aggregate aggregateId] :=
    .one (dot_aggregate diagram.external.dropped.length).1
      (dot_aggregate diagram.external.dropped.length).2
  have all := ((((((((heads.append layout).append style).append nodes).append
    (aggregate.orNothing diagram.external.isEmpty)).append blank).append edges).append
      outbound).append inbound).append close
  simp only [List.nil_append, List.append_nil] at all
  rw [told, toldJoined, ← List.append_assoc]
  exact all.filterMap_linesFrom

theorem readMermaid_mermaid (graph : diagram.kind ≠ .mindMap) :
    (readMermaid diagram.mermaid).Perm diagram.told := by
  have order : (diagram.toldNodes ++ diagram.toldEdges ++
      (diagram.toldAggregate ++ diagram.toldJoined)).Perm diagram.told := by
    simp only [told, List.append_assoc]
    exact (List.perm_append_comm_assoc ..).append_left _
  rw [mermaid]
  cases kind : diagram.kind with
  | flow =>
    dsimp only
    rwa [readMermaid_mermaidGraph legible (by decide +kernel) (by decide +kernel)]
  | hierarchy =>
    dsimp only
    rwa [readMermaid_mermaidGraph legible (by decide +kernel) (by decide +kernel)]
  | mindMap => exact absurd kind graph

end Read

end CSurvey.Diagram
