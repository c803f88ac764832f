import CSurvey.Proofs.Diagram.Accounts
import Mathlib.Order.Bounds.Basic
import Mathlib.Order.Nat

/-!
# The identifiers of a diagram

The identifiers that are tried for a name differ from each other, and so one after the
other is tried until one is new: each that is not leaves fewer identifiers in use that
later ones could meet.  What is found are identifiers, no two names share one, and the
edges of a diagram name their ends by them.
-/

namespace CSurvey

namespace Diagram

/-- A letter or an underscore, and after it letters, digits and underscores. -/
def IsIdentifier (id : String) : Prop :=
  ∃ first rest, id.toList = first :: rest ∧ (first.isAlpha = true ∨ first = '_') ∧
    ∀ c ∈ rest, c.isAlphanum = true ∨ c = '_'

/-- The identifiers that are tried for a name. -/
def candidate (base : String) : Nat → String
  | 0 => base
  | number + 1 => numberedId base number

section Candidates

variable {base id : String} {used : List String} {number : Nat}

theorem candidate_injective (base : String) : Function.Injective (candidate base) := by
  have numbered (number : Nat) : numberedId base number ≠ base := by
    intro same
    have lengths := congrArg (fun id => id.toList.length) same
    simp [toList_numberedId] at lengths
  rintro (_ | one) (_ | two) same
  · rfl
  · exact absurd same.symm (numbered two)
  · exact absurd same (numbered one)
  · exact congrArg (· + 1) (numberedId_injective base same)

/-- The identifiers in use that are not among those tried so far. -/
def untried (used : List String) (base : String) (number : Nat) : List String :=
  used.filter (fun id => !((List.range number).map (candidate base)).contains id)

theorem length_untried_lt (inUse : candidate base number ∈ used) :
    (untried used base (number + 1)).length < (untried used base number).length := by
  have fewer : untried used base (number + 1) =
      (untried used base number).filter (fun id => id != candidate base number) := by
    rw [untried, untried, List.filter_filter]
    refine List.filter_congr (fun id _ => ?_)
    rw [Bool.eq_iff_iff]
    simp [List.range_succ, and_comm]
  rw [fewer]
  refine List.length_filter_lt_length_iff_exists.2 ⟨candidate base number, ?_, by simp⟩
  rw [untried, List.mem_filter]
  refine ⟨inUse, ?_⟩
  simp only [Bool.not_eq_true', List.contains_eq_mem, decide_eq_false_iff_not, List.mem_map,
    List.mem_range]
  rintro ⟨earlier, before, same⟩
  exact Nat.ne_of_lt before (candidate_injective base same)

/-- Try one identifier after the other, from one of them on, until one is new. -/
def firstNew (used : List String) (base : String) (number : Nat) : String :=
  if candidate base number ∈ used then firstNew used base (number + 1) else candidate base number
termination_by (untried used base number).length
decreasing_by exact length_untried_lt ‹_›

theorem exists_isLeast_firstNew (used : List String) (base : String) (number : Nat) :
    ∃ found, IsLeast {later | number ≤ later ∧ candidate base later ∉ used} found ∧
      firstNew used base number = candidate base found := by
  fun_induction firstNew used base number with
  | case1 number inUse ih =>
    obtain ⟨found, ⟨⟨after, new⟩, least⟩, value⟩ := ih
    refine ⟨found, ⟨⟨by omega, new⟩, ?_⟩, value⟩
    rintro later ⟨bound, unused⟩
    have other : number ≠ later := by
      rintro rfl
      exact unused inUse
    exact least ⟨by omega, unused⟩
  | case2 number new => exact ⟨number, ⟨⟨Nat.le_refl _, new⟩, fun later after => after.1⟩, rfl⟩

theorem firstNew_eq_of_isLeast {found : Nat}
    (first : IsLeast {later | candidate base later ∉ used} found) :
    firstNew used base 0 = candidate base found := by
  obtain ⟨other, least, value⟩ := exists_isLeast_firstNew used base 0
  simp only [Nat.zero_le, true_and] at least
  rw [value, least.unique first]

/-- Only which identifiers are in use matters. -/
theorem firstNew_congr {other : List String} (same : ∀ id, id ∈ used ↔ id ∈ other) :
    firstNew used base 0 = firstNew other base 0 := by
  obtain ⟨found, least, value⟩ := exists_isLeast_firstNew other base 0
  simp only [Nat.zero_le, true_and] at least
  rw [value]
  refine firstNew_eq_of_isLeast ?_
  simpa only [same] using least

/-- Enough numbers are tried. -/
theorem freshId_eq_firstNew (used : List String) (base : String) :
    freshId used base = firstNew used base 0 := by
  have new := freshId_not_mem used base
  by_cases inUse : base ∈ used
  · rw [freshId_of_mem inUse] at new ⊢
    cases found : ((List.range (used.length + 1)).map (numberedId base)).find?
        (fun id => !used.contains id) with
    | none =>
      rw [found] at new
      exact absurd inUse new
    | some id =>
      rw [List.find?_map, Option.map_eq_some_iff] at found
      obtain ⟨number, first, rfl⟩ := found
      obtain ⟨unused, -, earlier⟩ := List.find?_range_eq_some.1 first
      have least : IsLeast {later | candidate base later ∉ used} (number + 1) := by
        refine ⟨by simpa [candidate] using unused, ?_⟩
        rintro (_ | later) unused
        · exact absurd inUse unused
        · by_contra before
          exact unused (by simpa [candidate] using earlier later (by omega))
      exact (firstNew_eq_of_isLeast least).symm
  · have least : IsLeast {later | candidate base later ∉ used} 0 :=
      ⟨inUse, fun _ _ => Nat.zero_le _⟩
    rw [firstNew_eq_of_isLeast least]
    exact if_neg (by simpa using inUse)

end Candidates

section Identifiers

variable {base : String}

theorem isIdentifier_diagramId (name : String) : IsIdentifier (NameHints.diagramId name) := by
  have kept : ∀ c ∈ name.toList.map (fun c => if NameHints.isIdChar c then c else '_'),
      c.isAlphanum = true ∨ c = '_' := by
    intro c member
    obtain ⟨c, -, rfl⟩ := List.mem_map.1 member
    by_cases isKept : NameHints.isIdChar c = true
    · rw [if_pos isKept]
      simpa [NameHints.isIdChar] using isKept
    · exact Or.inr (if_neg isKept)
  unfold NameHints.diagramId
  generalize name.toList.map (fun c => if NameHints.isIdChar c then c else '_') = chars at kept
  cases chars with
  | nil => exact ⟨'n', [], rfl, Or.inl rfl, List.forall_mem_nil _⟩
  | cons c rest =>
    dsimp only
    split
    · exact ⟨'n', c :: rest, String.toList_ofList, Or.inl rfl, kept⟩
    · rename_i notDigit
      obtain ⟨first, others⟩ := List.forall_mem_cons.1 kept
      refine ⟨c, rest, String.toList_ofList, ?_, others⟩
      simpa [Char.isAlphanum, notDigit] using first

theorem IsIdentifier.candidate (identifier : IsIdentifier base) (number : Nat) :
    IsIdentifier (candidate base number) := by
  cases number with
  | zero => exact identifier
  | succ number =>
    obtain ⟨first, rest, chars, letter, others⟩ := identifier
    refine ⟨first, rest ++ '_' :: Nat.toDigits 10 (number + 2), ?_, letter, ?_⟩
    · rw [Diagram.candidate, toList_numberedId, chars, List.cons_append]
    · intro c member
      rcases List.mem_append.1 member with inRest | inNumber
      · exact others c inRest
      · rcases List.mem_cons.1 inNumber with rfl | isDigit
        · exact Or.inr rfl
        · have digit := Nat.isDigit_of_mem_toDigits (by decide) (by decide) isDigit
          exact Or.inl (by simp [Char.isAlphanum, digit])

theorem isIdentifier_firstNew (used : List String) (name : String) :
    IsIdentifier (firstNew used (NameHints.diagramId name) 0) := by
  obtain ⟨found, -, value⟩ := exists_isLeast_firstNew used (NameHints.diagramId name) 0
  exact value ▸ (isIdentifier_diagramId name).candidate found

end Identifiers

/-- Some names have identifiers: each name the first that none before it has. -/
structure Identified (names : List String) (ids : List (String × String)) : Prop where
  names : ids.map (·.1) = names
  turns : ∀ front entry back, ids = front ++ entry :: back →
    entry.2 = firstNew (front.map (·.2)) (NameHints.diagramId entry.1) 0
  distinct : (ids.map (·.2)).Nodup
  identifiers : ∀ entry ∈ ids, IsIdentifier entry.2

theorem eq_firstNew_of_assignIds {used names : List String} {front back : List (String × String)}
    {entry : String × String} (split : assignIds used names = front ++ entry :: back) :
    entry.2 = firstNew (used ++ front.map (·.2)) (NameHints.diagramId entry.1) 0 := by
  induction names generalizing used front with
  | nil => simp [assignIds] at split
  | cons name rest ih =>
    rw [assignIds] at split
    cases front with
    | nil =>
      obtain ⟨rfl, -⟩ := List.cons.inj split
      rw [List.map_nil, List.append_nil]
      exact freshId_eq_firstNew used _
    | cons first front =>
      obtain ⟨rfl, later⟩ := List.cons.inj split
      rw [ih later, List.map_cons]
      exact firstNew_congr (by simp [or_left_comm])

theorem identified_assignIds (names : List String) : Identified names (assignIds [] names) where
  names := map_fst_assignIds [] names
  turns front entry back := eq_firstNew_of_assignIds
  distinct := (nodup_assignIds [] names).1
  identifiers entry member := by
    obtain ⟨front, back, split⟩ := List.append_of_mem member
    rw [eq_firstNew_of_assignIds split]
    exact isIdentifier_firstNew _ _

/-- The nodes of a diagram have identifiers, and its edges name their ends by them. -/
structure Identifies (diagram : Diagram) (input : GraphInput) : Prop where
  assigned : Identified (diagram.nodes.map DiagramNode.label)
    (diagram.nodes.map (fun node => (node.label, node.id)))
  labels : (diagram.nodes.map DiagramNode.label).Nodup
  oneToOne : ∀ first ∈ diagram.nodes, ∀ second ∈ diagram.nodes,
    first.id = second.id ↔ first.label = second.label
  /-- The edges between names that are shown, each once, in the order in which they came first. -/
  edges : List.Forall₂
    (fun ends edge => ∃ source ∈ diagram.nodes, ∃ target ∈ diagram.nodes,
      ends = (source.label, target.label) ∧ edge.source = source.id ∧ edge.target = target.id)
    ((input.edges.map (fun edge => (edge.source, edge.target))).eraseDups.filter
      (fun ends => diagram.Shows ends.1 ∧ diagram.Shows ends.2))
    diagram.edges

section Draw

variable (input : GraphInput) (kind : ChartKind) (maxNodes : Nat)

theorem map_label_id_draw :
    (draw input kind maxNodes).nodes.map (fun node => (node.label, node.id)) =
      assignIds [] (keptOf input maxNodes) := by
  have distinct : ((assignIds [] (keptOf input maxNodes)).map (·.1)).Nodup := by
    rw [map_fst_assignIds]
    exact nodup_keptOf input maxNodes
  calc (draw input kind maxNodes).nodes.map (fun node => (node.label, node.id))
      = (keptOf input maxNodes).map
          (fun name => (name, idIn (assignIds [] (keptOf input maxNodes)) name)) := List.map_map
    _ = ((assignIds [] (keptOf input maxNodes)).map (·.1)).map
          (fun name => (name, idIn (assignIds [] (keptOf input maxNodes)) name)) := by
        rw [map_fst_assignIds]
    _ = (assignIds [] (keptOf input maxNodes)).map id := by
        rw [List.map_map]
        exact List.map_congr_left (fun entry member =>
          Prod.ext rfl (idIn_of_mem distinct member))
    _ = assignIds [] (keptOf input maxNodes) := List.map_id _

theorem draw_identifies : (draw input kind maxNodes).Identifies input where
  assigned := by
    rw [map_label_id_draw, labels_draw]
    exact identified_assignIds (keptOf input maxNodes)
  labels := nodup_labels_draw input kind maxNodes
  oneToOne first isFirst second isSecond := by
    obtain ⟨firstKept, firstId⟩ := label_id_of_mem_nodes_draw isFirst
    obtain ⟨secondKept, secondId⟩ := label_id_of_mem_nodes_draw isSecond
    rw [firstId, secondId]
    exact ⟨idIn_inj firstKept secondKept, congrArg _⟩
  edges := by
    have shown (pair : Pair) : ((keptOf input maxNodes).contains pair.1.1 &&
        (keptOf input maxNodes).contains pair.1.2) =
          decide ((draw input kind maxNodes).Shows pair.1.1 ∧
            (draw input kind maxNodes).Shows pair.1.2) := by
      rw [Bool.eq_iff_iff]
      simp [shows_draw]
    rw [← map_fst_pairsOf, List.filter_map, edges_draw, List.forall₂_map_left_iff,
      List.forall₂_map_right_iff, List.filter_congr (fun pair _ => shown pair), Function.comp_def,
      List.forall₂_same]
    intro pair member
    obtain ⟨-, bothShown⟩ := List.mem_filter.1 member
    obtain ⟨sourceShown, targetShown⟩ := of_decide_eq_true bothShown
    obtain ⟨source, isSource, sourceLabel, sourceId⟩ :=
      exists_node_draw kind (shows_draw.1 sourceShown)
    obtain ⟨target, isTarget, targetLabel, targetId⟩ :=
      exists_node_draw kind (shows_draw.1 targetShown)
    refine ⟨source, isSource, target, isTarget, ?_, sourceId.symm, targetId.symm⟩
    rw [sourceLabel, targetLabel]

end Draw

/-- Names are identified whatever they are and however they are ranked, and the nodes and edges of
each diagram are. -/
theorem identifiers_correspond :
    (∀ names : List String, Identified names (assignIds [] names)) ∧
      ∀ (input : GraphInput) (kind : ChartKind) (maxNodes : Nat), 1 ≤ maxNodes →
        (∀ diagram, render input kind maxNodes = .ok diagram → diagram.Identifies input) ∧
          (input.total < wordSize → ∃ diagram, render input kind maxNodes = .ok diagram) :=
  ⟨identified_assignIds, fun input kind maxNodes room =>
    render_holds room (draw_identifies input kind maxNodes)⟩

/-- Three names with the same letters, one that looks like a numbered one of them, and one that
begins with a digit. -/
theorem identifiers_correspond_collisions :
    let input : GraphInput :=
      ⟨["a.b", "a_b", "a_b_2", "a-b", "9", ""],
        [⟨"a-b", "a.b", 1⟩, ⟨"a-b", "a.b", 2⟩, ⟨"a_b", "a_b_2", 1⟩, ⟨"9", "a_b", 1⟩]⟩
    Identified input.nodes (assignIds [] input.nodes) ∧
      1 ≤ 4 ∧ input.total < wordSize ∧
      ∃ diagram, render input .flow 4 = .ok diagram ∧ diagram.Identifies input ∧
        diagram.nodes.map (fun node => (node.label, node.id)) =
          [("a_b", "a_b"), ("a.b", "a_b_2"), ("a_b_2", "a_b_2_2"), ("a-b", "a_b_3")] ∧
        diagram.edges = [⟨"a_b_3", "a_b_2", 3⟩, ⟨"a_b", "a_b_2_2", 1⟩] := by
  intro input
  have fits : input.total < wordSize := by decide +kernel
  obtain ⟨all, diagrams⟩ := identifiers_correspond
  obtain ⟨identified, rendered⟩ := diagrams input .flow 4 (by decide)
  obtain ⟨diagram, drawn⟩ := rendered fits
  have identifies := identified diagram drawn
  obtain rfl := eq_draw_of_render drawn
  exact ⟨all _, by decide, fits, _, drawn, identifies, by decide +kernel, by decide +kernel⟩

end Diagram

end CSurvey
