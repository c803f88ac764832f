import CSurvey.Proofs.Diagram.Accounts
import CSurvey.Proofs.Json.Decode
import CSurvey.Wire.Operation

/-!
# Mappings as graphs to draw

A diagram can be drawn of a mapping from names to lists of names.  The mapping is
tried as a call graph and as a graph of nodes and edges first.  It is never the
first, but it is the second when its list for the name `edges` is empty: then all
its other names but `nodes` are passed over.
-/

namespace CSurvey

abbrev NameMapping :=
  List (String × List String)

namespace NameMapping

def toJson (mapping : NameMapping) : Json :=
  .obj (mapping.map (fun entry => (entry.1, .strings entry.2)))

/-- A name stands for itself or in a list. -/
def Mentions (mapping : NameMapping) (name : String) : Prop :=
  ∃ entry ∈ mapping, name = entry.1 ∨ name ∈ entry.2

/-- The number of names in all lists. -/
def calls (mapping : NameMapping) : Nat :=
  (mapping.flatMap (·.2)).length

end NameMapping

section Strings

theorem GraphStats.ofJson?_strings (names : List String) :
    GraphStats.ofJson? (.strings names) = none := by
  cases names with
  | nil => rfl
  | cons name rest =>
    rw [ofJson?, Json.strings, Json.list, List.map_cons, Json.slots?]
    split
    · rfl
    · rw [Option.bind_eq_bind, Option.bind_some]
      split
      · rename_i same
        obtain ⟨rfl, -⟩ := List.cons.inj same
        rfl
      · rfl

theorem InputEdge.list?_strings (names : List String) :
    Json.list? InputEdge.ofJson? (.strings names) = if names = [] then some [] else none := by
  cases names with
  | nil => rfl
  | cons name rest => rfl

end Strings

namespace NameMapping

/-- What a record finds in a mapping for one of its fields. -/
def slot (mapping : NameMapping) (name : String) : Json.Slot :=
  match mapping.toJson.field? name with
  | some value => .given value
  | none => .absent

theorem slots?_toJson (mapping : NameMapping) (names : List String) :
    Json.slots? names mapping.toJson = some (names.map mapping.slot) :=
  rfl

variable {mapping : NameMapping} {name : String}

theorem slot_of_not_mem (missing : ∀ names, (name, names) ∉ mapping) :
    mapping.slot name = .absent := by
  have absent : mapping.toJson.field? name = none := by
    rw [toJson, Json.field?, Option.map_eq_none_iff, List.find?_eq_none]
    simp only [List.mem_reverse, List.mem_map, beq_iff_eq]
    rintro field ⟨⟨other, names⟩, member, rfl⟩ rfl
    exact missing names member
  rw [slot, absent]

section Distinct

variable (distinct : (mapping.map (·.1)).Nodup)
include distinct

theorem slot_of_mem {names : List String} (member : (name, names) ∈ mapping) :
    mapping.slot name = .given (.strings names) := by
  have found : mapping.toJson.field? name = some (.strings names) := by
    refine Json.field?_of_mem ?_ (List.mem_map_of_mem member)
    rwa [List.map_map]
  rw [slot, found]

/-- A field that takes no list of names cannot be read from a mapping. -/
theorem required_slot {α : Type} {decode : Json → Option α}
    (fails : ∀ names, decode (.strings names) = none) (name : String) :
    (mapping.slot name).required decode = none := by
  by_cases inside : ∃ names, (name, names) ∈ mapping
  · obtain ⟨names, member⟩ := inside
    rw [slot_of_mem distinct member]
    exact fails names
  · rw [slot_of_not_mem (not_exists.1 inside)]
    rfl

theorem callGraph_ofJson? : CallGraph.ofJson? mapping.toJson = none := by
  have stats := required_slot distinct GraphStats.ofJson?_strings "stats"
  simp only [CallGraph.ofJson?, slots?_toJson, List.map_cons, List.map_nil, Option.bind_eq_bind,
    Option.bind_some, stats, Option.bind_none, Option.bind_fun_none]

theorem graphInput_ofJson? (member : ("edges", []) ∈ mapping) :
    ∃ nodes, GraphInput.ofJson? mapping.toJson = some ⟨nodes, []⟩ ∧
      (nodes = [] ∨ ("nodes", nodes) ∈ mapping) := by
  have edges := slot_of_mem distinct member
  by_cases inside : ∃ names, ("nodes", names) ∈ mapping
  · obtain ⟨names, inNodes⟩ := inside
    refine ⟨names, ?_, Or.inr inNodes⟩
    simp only [GraphInput.ofJson?, slots?_toJson, List.map_cons, List.map_nil,
      Option.bind_eq_bind, Option.bind_some, edges, slot_of_mem distinct inNodes]
    rw [Json.Slot.withDefault, Json.strings?_strings]
    rfl
  · refine ⟨[], ?_, Or.inl rfl⟩
    simp only [GraphInput.ofJson?, slots?_toJson, List.map_cons, List.map_nil,
      Option.bind_eq_bind, Option.bind_some, edges, slot_of_not_mem (not_exists.1 inside)]
    rfl

theorem graphInput_ofJson?_eq_none (other : ("edges", []) ∉ mapping) :
    GraphInput.ofJson? mapping.toJson = none := by
  have edges : (mapping.slot "edges").required (Json.list? InputEdge.ofJson?) = none := by
    by_cases inside : ∃ names, ("edges", names) ∈ mapping
    · obtain ⟨names, member⟩ := inside
      have nonempty : names ≠ [] := by
        rintro rfl
        exact other member
      rw [slot_of_mem distinct member, Json.Slot.required, InputEdge.list?_strings,
        if_neg nonempty]
    · rw [slot_of_not_mem (not_exists.1 inside)]
      rfl
  simp only [GraphInput.ofJson?, slots?_toJson, List.map_cons, List.map_nil, Option.bind_eq_bind,
    Option.bind_some, edges, Option.bind_none, Option.bind_fun_none]

theorem adjacencyOfJson?_toJson :
    adjacencyOfJson? mapping.toJson =
      some (Sorted.sort (fun first second => first.1 ≤ second.1) mapping) := by
  have pairs := Json.pairs?_obj distinct
    (fun entry (_ : entry ∈ mapping) => Json.strings?_strings entry.2)
  rw [adjacencyOfJson?, toJson, pairs]
  rfl

/-- A mapping without an empty list for the name of the edges is drawn as it is. -/
theorem ofSource?_toJson (other : ("edges", []) ∉ mapping) :
    GraphInput.ofSource? mapping.toJson =
      some (GraphInput.ofAdjacency
        (Sorted.sort (fun first second => first.1 ≤ second.1) mapping)) := by
  rw [GraphInput.ofSource?, callGraph_ofJson? distinct, graphInput_ofJson?_eq_none distinct other,
    adjacencyOfJson?_toJson distinct]
  rfl

/-- A mapping with an empty list for the name of the edges is drawn without its calls. -/
theorem ofSource?_toJson_of_mem (member : ("edges", []) ∈ mapping) :
    ∃ nodes, GraphInput.ofSource? mapping.toJson = some ⟨nodes, []⟩ ∧
      (nodes = [] ∨ ("nodes", nodes) ∈ mapping) := by
  obtain ⟨nodes, read, among⟩ := graphInput_ofJson? distinct member
  refine ⟨nodes, ?_, among⟩
  rw [GraphInput.ofSource?, callGraph_ofJson? distinct, read]
  rfl

end Distinct

section Adjacency

theorem mentions_ofAdjacency :
    (GraphInput.ofAdjacency mapping).Mentions name ↔ mapping.Mentions name := by
  simp only [GraphInput.Mentions, GraphInput.ofAdjacency, List.mem_map, List.mem_flatMap, Mentions]
  constructor
  · rintro (⟨entry, member, rfl⟩ | ⟨edge, ⟨entry, member, target, listed, rfl⟩, rfl | rfl⟩)
    · exact ⟨entry, member, Or.inl rfl⟩
    · exact ⟨entry, member, Or.inl rfl⟩
    · exact ⟨entry, member, Or.inr listed⟩
  · rintro ⟨entry, member, rfl | listed⟩
    · exact Or.inl ⟨entry, member, rfl⟩
    · exact Or.inr ⟨_, ⟨entry, member, name, listed, rfl⟩, Or.inr rfl⟩

theorem total_ofAdjacency (mapping : NameMapping) :
    (GraphInput.ofAdjacency mapping).total = mapping.calls := by
  have counts : (GraphInput.ofAdjacency mapping).edges.map InputEdge.count =
      (mapping.flatMap (·.2)).map (fun _ => 1) := by
    rw [GraphInput.ofAdjacency, List.map_flatMap, List.map_flatMap]
    exact congrArg (fun targets => List.flatMap targets mapping)
      (funext fun entry => List.map_map)
  rw [GraphInput.total, counts, List.map_const', List.sum_replicate_nat, Nat.mul_one, calls]

theorem mentions_perm {other : NameMapping} (same : mapping.Perm other) :
    mapping.Mentions name ↔ other.Mentions name := by
  simp only [Mentions, same.mem_iff]

theorem calls_perm {other : NameMapping} (same : mapping.Perm other) :
    mapping.calls = other.calls :=
  (same.flatMap_right _).length_eq

theorem ncard_mentions_sort (mapping : NameMapping) :
    {name | (GraphInput.ofAdjacency
      (Sorted.sort (fun first second => first.1 ≤ second.1) mapping)).Mentions name}.ncard =
        {name | mapping.Mentions name}.ncard := by
  congr 1
  ext name
  exact mentions_ofAdjacency.trans (mentions_perm (Sorted.sort_perm ..))

theorem ncard_mentions_pos {entry : String × List String} (member : entry ∈ mapping) :
    0 < {name | mapping.Mentions name}.ncard := by
  have drawn : {name | mapping.Mentions name} =
      {name | (GraphInput.ofAdjacency mapping).Mentions name} := by
    ext name
    exact mentions_ofAdjacency.symm
  rw [drawn, Diagram.ncard_mentions]
  exact List.length_pos_of_mem
    (Diagram.mem_namesOf.2 (mentions_ofAdjacency.2 ⟨entry, member, Or.inl rfl⟩))

theorem ncard_mentions_ne {nodes : List String} {entry : String × List String}
    (member : entry ∈ mapping) (among : nodes = [] ∨ ∃ other, (other, nodes) ∈ mapping)
    (noCalls : mapping.calls = 0) :
    {name | GraphInput.Mentions ⟨nodes, []⟩ name}.ncard ≠
      {name | mapping.Mentions name}.ncard := by
  have unlisted := List.flatMap_eq_nil_iff.1 (List.eq_nil_of_length_eq_zero noCalls)
  obtain rfl : nodes = [] := by
    rcases among with rfl | ⟨other, inside⟩
    · rfl
    · exact unlisted _ inside
  have nothing : {name | GraphInput.Mentions ⟨[], []⟩ name} = ∅ := by
    ext name
    simp [GraphInput.Mentions]
  rw [nothing, Set.ncard_empty]
  exact Nat.ne_of_lt (ncard_mentions_pos member)

end Adjacency

end NameMapping

end CSurvey
