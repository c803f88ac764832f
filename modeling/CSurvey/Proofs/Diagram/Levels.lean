import CSurvey.Proofs.Diagram.Accounts
import CSurvey.Proofs.Walk.Distance

/-!
# The levels of a diagram

Walks over the names that are shown start together at the names that no other one
calls, and then one by one, in the order of rank, at those that only cycles reach.
What a walk meets first keeps its level.  Since a walk meets all that paths lead to,
nothing that it meets first comes after something that was met before, and so levels
go down to zero along callers.
-/

namespace CSurvey

namespace Diagram

open Relation (ReflTransGen)
open Walk (IsDistance Leads)

/-- The distance of a name from the roots is its level, or they do not reach it, and its distance
from the first of the starts that reaches it is its level. -/
def Levelled (steps : List (String × String)) (roots starts : List String) (name : String)
    (level : Nat) : Prop :=
  IsDistance (Leads steps) {root | root ∈ roots} name level ∨
    (∀ root ∈ roots, ¬ ReflTransGen (Leads steps) root name) ∧
      open Classical in
      ∃ start, starts.find? (fun start => ReflTransGen (Leads steps) start name) = some start ∧
        IsDistance (Leads steps) {start} name level

section Walks

variable {steps : List (String × String)} {roots starts : List String} {name caller start : String}
  {level : Nat} {met : List (String × Nat)}

theorem exists_isDistance_singleton_iff :
    (∃ level, IsDistance (Leads steps) {start} name level) ↔
      ReflTransGen (Leads steps) start name := by
  rw [Walk.exists_isDistance_iff]
  simp

theorem exists_levelled_iff :
    (∃ level, Levelled steps roots starts name level) ↔
      ∃ start ∈ roots ++ starts, ReflTransGen (Leads steps) start name := by
  classical
  constructor
  · rintro ⟨level, near | ⟨-, start, first, near⟩⟩
    · obtain ⟨root, isRoot, reaches⟩ := Walk.exists_isDistance_iff.1 ⟨level, near⟩
      exact ⟨root, List.mem_append_left _ isRoot, reaches⟩
    · exact ⟨start, List.mem_append_right _ (List.mem_of_find?_eq_some first),
        exists_isDistance_singleton_iff.1 ⟨level, near⟩⟩
  · rintro ⟨start, member, reaches⟩
    by_cases reached : ∃ root ∈ roots, ReflTransGen (Leads steps) root name
    · obtain ⟨level, near⟩ : ∃ level, IsDistance (Leads steps) {root | root ∈ roots} name level :=
        Walk.exists_isDistance_iff.2 reached
      exact ⟨level, Or.inl near⟩
    · have isStart : start ∈ starts :=
        (List.mem_append.1 member).resolve_left (fun isRoot => reached ⟨start, isRoot, reaches⟩)
      have found :
          (starts.find? (fun start => ReflTransGen (Leads steps) start name)).isSome = true :=
        List.find?_isSome.2 ⟨start, isStart, decide_eq_true reaches⟩
      obtain ⟨first, isFirst⟩ := Option.isSome_iff_exists.1 found
      have reaches : ReflTransGen (Leads steps) first name := by simpa using List.find?_some isFirst
      obtain ⟨level, near⟩ := exists_isDistance_singleton_iff.2 reaches
      exact ⟨level, Or.inr ⟨fun root isRoot reaches => reached ⟨root, isRoot, reaches⟩,
        first, isFirst, near⟩⟩

theorem Levelled.unique {other : Nat} (one : Levelled steps roots starts name level)
    (two : Levelled steps roots starts name other) : level = other := by
  rcases one with near | ⟨unreached, start, first, near⟩ <;>
    rcases two with near' | ⟨unreached', start', first', near'⟩
  · exact near.unique near'
  · obtain ⟨root, isRoot, reaches⟩ := Walk.exists_isDistance_iff.1 ⟨_, near⟩
    exact absurd reaches (unreached' root isRoot)
  · obtain ⟨root, isRoot, reaches⟩ := Walk.exists_isDistance_iff.1 ⟨_, near'⟩
    exact absurd reaches (unreached root isRoot)
  · obtain rfl := Option.some.inj (first.symm.trans first')
    exact near.unique near'

theorem Levelled.exists_caller (above : Levelled steps roots starts name (level + 1)) :
    ∃ caller, Levelled steps roots starts caller level ∧ Leads steps caller name := by
  classical
  rcases above with far | ⟨unreached, start, first, far⟩
  · obtain ⟨caller, near, leads⟩ := far.exists_before
    exact ⟨caller, Or.inl near, leads⟩
  · obtain ⟨caller, near, leads⟩ := far.exists_before
    obtain ⟨-, before, after, split, notBefore⟩ := List.find?_eq_some_iff_append.1 first
    -- What reaches the caller reaches the name, so the same start is the first to reach both.
    refine ⟨caller, Or.inr ⟨fun root isRoot reaches => unreached root isRoot (reaches.tail leads),
      start, ?_, near⟩, leads⟩
    refine List.find?_eq_some_iff_append.2
      ⟨decide_eq_true (exists_isDistance_singleton_iff.1 ⟨level, near⟩), before, after, split, ?_⟩
    intro earlier isBefore
    have fails := notBefore earlier isBefore
    simp only [Bool.not_eq_true', decide_eq_false_iff_not] at fails ⊢
    exact fun reaches => fails (reaches.tail leads)

/-- One more start gives levels to what nothing reached before. -/
theorem levelled_concat :
    Levelled steps roots (starts ++ [start]) name level ↔
      Levelled steps roots starts name level ∨
        (¬ ∃ earlier ∈ roots ++ starts, ReflTransGen (Leads steps) earlier name) ∧
          IsDistance (Leads steps) {start} name level := by
  classical
  constructor
  · rintro (near | ⟨unreached, first, found, near⟩)
    · exact Or.inl (Or.inl near)
    · rw [List.find?_append, Option.or_eq_some_iff] at found
      rcases found with inStarts | ⟨notFound, isLast⟩
      · exact Or.inl (Or.inr ⟨unreached, first, inStarts, near⟩)
      · obtain rfl := List.mem_singleton.1 (List.mem_of_find?_eq_some isLast)
        refine Or.inr ⟨?_, near⟩
        rintro ⟨earlier, member, reaches⟩
        rcases List.mem_append.1 member with isRoot | isStart
        · exact unreached earlier isRoot reaches
        · exact List.find?_eq_none.1 notFound earlier isStart (decide_eq_true reaches)
  · rintro ((near | ⟨unreached, first, found, near⟩) | ⟨unreached, near⟩)
    · exact Or.inl near
    · refine Or.inr ⟨unreached, first, ?_, near⟩
      rw [List.find?_append, found, Option.some_or]
    · have reaches := exists_isDistance_singleton_iff.1 ⟨level, near⟩
      have notFound : starts.find? (fun start => ReflTransGen (Leads steps) start name) = none := by
        rw [List.find?_eq_none]
        intro earlier isStart reaches
        exact unreached ⟨earlier, List.mem_append_right _ isStart, of_decide_eq_true reaches⟩
      refine Or.inr ⟨fun root isRoot reaches =>
        unreached ⟨root, List.mem_append_left _ isRoot, reaches⟩, start, ?_, near⟩
      rw [List.find?_append, notFound, Option.none_or]
      simp [reaches]

theorem isMet_iff_of_levelled
    (spec : ∀ name level, (name, level) ∈ met ↔ Levelled steps roots starts name level) :
    Walk.isMet met name = true ↔
      ∃ start ∈ roots ++ starts, ReflTransGen (Leads steps) start name := by
  rw [← exists_levelled_iff, Walk.isMet_iff]
  simp [spec]

theorem mem_fillLevels (rest : List String)
    (spec : ∀ name level, (name, level) ∈ met ↔ Levelled steps roots starts name level)
    (name : String) (level : Nat) :
    (name, level) ∈ fillLevels steps rest met ↔
      Levelled steps roots (starts ++ rest) name level := by
  induction rest generalizing starts met with
  | nil => rw [fillLevels, spec, List.append_nil]
  | cons start rest ih =>
    rw [fillLevels, List.append_cons]
    split
    · rename_i old
      refine ih (fun name level => ?_)
      obtain ⟨earlier, member, reaches⟩ := (isMet_iff_of_levelled spec).1 old
      rw [spec, levelled_concat, or_iff_left]
      rintro ⟨unreached, near⟩
      exact unreached ⟨earlier, member,
        reaches.trans (exists_isDistance_singleton_iff.1 ⟨level, near⟩)⟩
    · refine ih (fun name level => ?_)
      have more : (name, level) ∈ (Walk.levels steps [start]).filter
            (fun entry => !Walk.isMet met entry.1) ↔
          (¬ ∃ earlier ∈ roots ++ starts, ReflTransGen (Leads steps) earlier name) ∧
            IsDistance (Leads steps) {start} name level := by
        rw [List.mem_filter, Walk.mem_levels, ← isMet_iff_of_levelled spec, and_comm]
        simp
      rw [List.mem_append, spec, more, levelled_concat]

theorem mem_levels_iff_levelled :
    (name, level) ∈ Walk.levels steps roots ↔ Levelled steps roots [] name level := by
  rw [Walk.mem_levels, Levelled, or_iff_left]
  rintro ⟨-, start, nowhere, -⟩
  cases nowhere

theorem levelOf?_eq_some_iff (once : ∀ level other, (name, level) ∈ met → (name, other) ∈ met →
    level = other) : Walk.levelOf? met name = some level ↔ (name, level) ∈ met := by
  rw [Walk.levelOf?, Option.map_eq_some_iff]
  constructor
  · rintro ⟨entry, found, rfl⟩
    obtain rfl : entry.1 = name := by simpa using List.find?_some found
    exact List.mem_of_find?_eq_some found
  · intro member
    have found : (met.find? (fun entry => entry.1 == name)).isSome = true :=
      List.find?_isSome.2 ⟨_, member, beq_self_eq_true name⟩
    obtain ⟨entry, found⟩ := Option.isSome_iff_exists.1 found
    obtain rfl : entry.1 = name := by simpa using List.find?_some found
    exact ⟨entry, found, once _ _ (List.mem_of_find?_eq_some found) member⟩

end Walks

/-- An edge joins two different names that are shown. -/
def ShownStep (diagram : Diagram) (input : GraphInput) (caller callee : String) : Prop :=
  caller ≠ callee ∧ diagram.Shows caller ∧ diagram.Shows callee ∧ input.Joins caller callee

/-- A name is shown, and no other name that is shown has an edge to it. -/
def IsTop (diagram : Diagram) (input : GraphInput) (name : String) : Prop :=
  diagram.Shows name ∧ ∀ caller, ¬ diagram.ShownStep input caller name

/-- The place of a name among those that are shown. -/
def rankOf (diagram : Diagram) (name : String) : Nat :=
  (diagram.nodes.map DiagramNode.label).idxOf name

/-- Paths lead to a name from a top or from a name of an earlier rank. -/
def LevelledBefore (diagram : Diagram) (input : GraphInput) (name : String) : Prop :=
  (∃ top, diagram.IsTop input top ∧ ReflTransGen (diagram.ShownStep input) top name) ∨
    ∃ earlier, diagram.Shows earlier ∧ diagram.rankOf earlier < diagram.rankOf name ∧
      ReflTransGen (diagram.ShownStep input) earlier name

/-- The steps that walks over the names shown can take. -/
def shownSteps (diagram : Diagram) (input : GraphInput) : List (String × String) :=
  keptSteps (diagram.nodes.map DiagramNode.label) (pairsOf input.edges)

/-- The names at which walks start together. -/
def topsOf (diagram : Diagram) (input : GraphInput) : List String :=
  (diagram.nodes.map DiagramNode.label).filter
    (fun name => !(diagram.shownSteps input).any (fun step => step.2 == name))

def metAfter (diagram : Diagram) (input : GraphInput) (names : List String) : List (String × Nat) :=
  fillLevels (diagram.shownSteps input) names
    (Walk.levels (diagram.shownSteps input) (diagram.topsOf input))

/-- The levels of the nodes are distances from the tops, or else from the first nodes that reach
them. -/
structure HasLevels (diagram : Diagram) (input : GraphInput) : Prop where
  /-- Each node gets a level from a walk. -/
  levelled : ∀ node ∈ diagram.nodes,
    Walk.levelOf? (levelsOf (diagram.nodes.map DiagramNode.label) (pairsOf input.edges))
      node.label = some node.level
  top : ∀ node ∈ diagram.nodes, diagram.IsTop input node.label → node.level = 0
  reached : ∀ node ∈ diagram.nodes,
    (∃ top, diagram.IsTop input top ∧ ReflTransGen (diagram.ShownStep input) top node.label) →
      IsDistance (diagram.ShownStep input) {top | diagram.IsTop input top} node.label node.level
  others : ∀ node ∈ diagram.nodes,
    (¬ ∃ top, diagram.IsTop input top ∧ ReflTransGen (diagram.ShownStep input) top node.label) →
      ∃ start, diagram.Shows start ∧ ¬ diagram.LevelledBefore input start ∧
        IsDistance (diagram.ShownStep input) {start} node.label node.level ∧
        ∀ other, diagram.Shows other →
          ReflTransGen (diagram.ShownStep input) other node.label →
            diagram.rankOf start ≤ diagram.rankOf other
  /-- When the turn of a name comes, walks have met it exactly if it is levelled before. -/
  turns : ∀ front name back, diagram.nodes.map DiagramNode.label = front ++ name :: back →
    (Walk.isMet (diagram.metAfter input front) name = true ↔ diagram.LevelledBefore input name)
  caller : ∀ node ∈ diagram.nodes, ∀ level, node.level = level + 1 →
    ∃ caller ∈ diagram.nodes, caller.level = level ∧
      diagram.ShownStep input caller.label node.label

section Shown

variable {diagram : Diagram} {input : GraphInput}

theorem leads_shownSteps (diagram : Diagram) (input : GraphInput) :
    Leads (diagram.shownSteps input) = diagram.ShownStep input := by
  funext caller callee
  rw [eq_iff_iff, Leads, shownSteps, keptSteps, List.mem_map]
  simp only [List.mem_filter, Bool.and_eq_true, bne_iff_ne, List.contains_eq_mem, decide_eq_true_eq]
  constructor
  · rintro ⟨pair, ⟨inPairs, ⟨different, sourceShown⟩, targetShown⟩, ends⟩
    obtain ⟨rfl, rfl⟩ := Prod.mk.inj ends
    exact ⟨different, sourceShown, targetShown, exists_pair_iff.1 ⟨pair, inPairs, rfl⟩⟩
  · rintro ⟨different, sourceShown, targetShown, joins⟩
    obtain ⟨pair, inPairs, ends⟩ :
        ∃ pair ∈ pairsOf input.edges, pair.1 = (caller, callee) := exists_pair_iff.2 joins
    refine ⟨pair, ⟨inPairs, ?_⟩, ends⟩
    rw [ends]
    exact ⟨⟨different, sourceShown⟩, targetShown⟩

theorem mem_topsOf {name : String} : name ∈ diagram.topsOf input ↔ diagram.IsTop input name := by
  rw [topsOf, List.mem_filter, IsTop, Shows, ← leads_shownSteps]
  refine and_congr_right (fun _ => ?_)
  simp only [Bool.not_eq_true', List.any_eq_false, beq_iff_eq, Leads, Prod.forall]
  constructor
  · exact fun noCaller caller step => noCaller caller name step rfl
  · rintro noCaller caller _ step rfl
    exact noCaller caller step

/-- The names before another one are those of an earlier rank. -/
theorem mem_front_iff {front back : List String} {name other : String}
    (distinct : (diagram.nodes.map DiagramNode.label).Nodup)
    (split : diagram.nodes.map DiagramNode.label = front ++ name :: back) :
    other ∈ front ↔ diagram.rankOf other < diagram.rankOf name := by
  rw [split] at distinct
  have apart : name ∉ front := fun inFront =>
    (List.nodup_append.1 distinct).2.2 name inFront name (List.mem_cons_self ..) rfl
  rw [rankOf, rankOf, split, List.idxOf_append_of_notMem apart, List.idxOf_cons_self, Nat.add_zero]
  constructor
  · intro inFront
    rw [List.idxOf_append_of_mem inFront]
    exact List.idxOf_lt_length_of_mem inFront
  · intro before
    by_contra absent
    rw [List.idxOf_append_of_notMem absent] at before
    omega

theorem mem_metAfter {names : List String} {name : String} {level : Nat} :
    (name, level) ∈ diagram.metAfter input names ↔
      Levelled (diagram.shownSteps input) (diagram.topsOf input) names name level :=
  mem_fillLevels names (fun _ _ => mem_levels_iff_levelled) name level

theorem isMet_metAfter_iff {front back : List String} {name : String}
    (distinct : (diagram.nodes.map DiagramNode.label).Nodup)
    (split : diagram.nodes.map DiagramNode.label = front ++ name :: back) :
    Walk.isMet (diagram.metAfter input front) name = true ↔ diagram.LevelledBefore input name := by
  rw [isMet_iff_of_levelled (fun _ _ => mem_metAfter), leads_shownSteps, LevelledBefore]
  constructor
  · rintro ⟨start, member, reaches⟩
    rcases List.mem_append.1 member with isTop | inFront
    · exact Or.inl ⟨start, mem_topsOf.1 isTop, reaches⟩
    · refine Or.inr ⟨start, ?_, (mem_front_iff distinct split).1 inFront, reaches⟩
      rw [Shows, split]
      exact List.mem_append_left _ inFront
  · rintro (⟨top, isTop, reaches⟩ | ⟨earlier, -, before, reaches⟩)
    · exact ⟨top, List.mem_append_left _ (mem_topsOf.2 isTop), reaches⟩
    · exact ⟨earlier, List.mem_append_right _ ((mem_front_iff distinct split).2 before), reaches⟩

theorem levelOf?_levelsOf {name : String} {level : Nat} :
    Walk.levelOf? (levelsOf (diagram.nodes.map DiagramNode.label) (pairsOf input.edges)) name =
        some level ↔
      Levelled (diagram.shownSteps input) (diagram.topsOf input)
        (diagram.nodes.map DiagramNode.label) name level := by
  have met : levelsOf (diagram.nodes.map DiagramNode.label) (pairsOf input.edges) =
      diagram.metAfter input (diagram.nodes.map DiagramNode.label) := rfl
  rw [met, levelOf?_eq_some_iff, mem_metAfter]
  exact fun level other one two => (mem_metAfter.1 one).unique (mem_metAfter.1 two)

theorem isDistance_of_levelled {name : String} {level : Nat}
    (levelled : Levelled (diagram.shownSteps input) (diagram.topsOf input)
      (diagram.nodes.map DiagramNode.label) name level)
    (reached : ∃ top, diagram.IsTop input top ∧ ReflTransGen (diagram.ShownStep input) top name) :
    IsDistance (diagram.ShownStep input) {top | diagram.IsTop input top} name level := by
  rw [Levelled, leads_shownSteps] at levelled
  simp only [mem_topsOf] at levelled
  obtain ⟨top, isTop, reaches⟩ := reached
  exact levelled.resolve_right (fun other => other.1 top isTop reaches)

theorem exists_start_of_levelled {name : String} {level : Nat}
    (distinct : (diagram.nodes.map DiagramNode.label).Nodup)
    (levelled : Levelled (diagram.shownSteps input) (diagram.topsOf input)
      (diagram.nodes.map DiagramNode.label) name level)
    (unreached : ¬ ∃ top, diagram.IsTop input top ∧
      ReflTransGen (diagram.ShownStep input) top name) :
    ∃ start, diagram.Shows start ∧ ¬ diagram.LevelledBefore input start ∧
      IsDistance (diagram.ShownStep input) {start} name level ∧
      ∀ other, diagram.Shows other → ReflTransGen (diagram.ShownStep input) other name →
        diagram.rankOf start ≤ diagram.rankOf other := by
  rw [Levelled, leads_shownSteps] at levelled
  rcases levelled with near | ⟨-, start, first, near⟩
  · obtain ⟨top, isTop, reaches⟩ := Walk.exists_isDistance_iff.1 ⟨level, near⟩
    exact absurd ⟨top, mem_topsOf.1 isTop, reaches⟩ unreached
  · obtain ⟨-, front, back, split, notBefore⟩ := List.find?_eq_some_iff_append.1 first
    have reaches : ReflTransGen (diagram.ShownStep input) start name := by
      simpa using List.find?_some first
    have noneBefore (other : String) (before : diagram.rankOf other < diagram.rankOf start) :
        ¬ ReflTransGen (diagram.ShownStep input) other name := by
      simpa using notBefore other ((mem_front_iff distinct split).2 before)
    refine ⟨start, List.mem_of_find?_eq_some first, ?_, near, ?_⟩
    · rintro (⟨top, isTop, before⟩ | ⟨earlier, -, before, leads⟩)
      · exact unreached ⟨top, isTop, before.trans reaches⟩
      · exact noneBefore earlier before (leads.trans reaches)
    · exact fun other _ leads => Nat.le_of_not_lt (fun before => noneBefore other before leads)

end Shown

section Draw

variable {input : GraphInput} {kind : ChartKind} {maxNodes : Nat}

theorem levelled_of_mem_nodes_draw {node : DiagramNode}
    (member : node ∈ (draw input kind maxNodes).nodes) :
    Levelled ((draw input kind maxNodes).shownSteps input) ((draw input kind maxNodes).topsOf input)
      ((draw input kind maxNodes).nodes.map DiagramNode.label) node.label node.level := by
  have shown := List.mem_map_of_mem (f := DiagramNode.label) member
  obtain ⟨level, levelled⟩ := exists_levelled_iff.2
    ⟨node.label, List.mem_append_right ((draw input kind maxNodes).topsOf input) shown,
      ReflTransGen.refl (r := Leads ((draw input kind maxNodes).shownSteps input))⟩
  have given : node.level = (Walk.levelOf? (levelsOf (keptOf input maxNodes)
      (pairsOf input.edges)) node.label).getD 0 := by
    obtain ⟨name, -, rfl⟩ := List.mem_map.1 member
    rfl
  rw [← labels_draw input kind, levelOf?_levelsOf.2 levelled] at given
  exact given ▸ levelled

theorem draw_hasLevels (input : GraphInput) (kind : ChartKind) (maxNodes : Nat) :
    (draw input kind maxNodes).HasLevels input where
  levelled node member := levelOf?_levelsOf.2 (levelled_of_mem_nodes_draw member)
  top node member isTop :=
    (isDistance_of_levelled (levelled_of_mem_nodes_draw member) ⟨_, isTop, .refl⟩).unique
      (Walk.isDistance_zero_iff.2 isTop)
  reached node member := isDistance_of_levelled (levelled_of_mem_nodes_draw member)
  others node member :=
    exists_start_of_levelled (nodup_labels_draw input kind maxNodes)
      (levelled_of_mem_nodes_draw member)
  turns front name back := isMet_metAfter_iff (nodup_labels_draw input kind maxNodes)
  caller node member level above := by
    obtain ⟨caller, levelled, leads⟩ :=
      Levelled.exists_caller (above ▸ levelled_of_mem_nodes_draw member)
    rw [leads_shownSteps] at leads
    obtain ⟨source, isSource, rfl⟩ := List.mem_map.1 leads.2.1
    exact ⟨source, isSource, (levelled_of_mem_nodes_draw isSource).unique levelled, leads⟩

end Draw

/-- A diagram of any size gives each node that is shown a level, and levels go down to zero along
callers. -/
theorem render_hasLevels (input : GraphInput) (kind : ChartKind) (maxNodes : Nat)
    (room : 1 ≤ maxNodes) :
    (∀ diagram, render input kind maxNodes = .ok diagram → diagram.HasLevels input) ∧
      (input.total < wordSize → ∃ diagram, render input kind maxNodes = .ok diagram) :=
  render_holds room (draw_hasLevels input kind maxNodes)

/-- A top that calls itself, and two cycles: the walk from `serve` comes first by rank, and the one
from `poll` leads into what it has met.  One name is not shown. -/
theorem render_hasLevels_cycles :
    let input : GraphInput :=
      ⟨[], [⟨"main", "main", 1⟩, ⟨"main", "open", 1⟩, ⟨"serve", "reply", 2⟩, ⟨"reply", "serve", 1⟩,
        ⟨"wait", "poll", 1⟩, ⟨"poll", "wait", 1⟩, ⟨"poll", "serve", 3⟩, ⟨"log", "log", 1⟩]⟩
    1 ≤ 6 ∧ input.total < wordSize ∧
      ∃ diagram, render input .flow 6 = .ok diagram ∧ diagram.HasLevels input ∧
      diagram.nodes.map (fun node => (node.label, node.level)) =
        [("serve", 0), ("poll", 0), ("reply", 1), ("wait", 1), ("main", 0), ("open", 1)] ∧
      diagram.external.dropped = ["log"] := by
  intro input
  have fits : input.total < wordSize := by decide +kernel
  obtain ⟨levels, rendered⟩ := render_hasLevels input .flow 6 (by decide)
  obtain ⟨diagram, drawn⟩ := rendered fits
  have hasLevels := levels diagram drawn
  obtain rfl := eq_draw_of_render drawn
  exact ⟨by decide, fits, _, drawn, hasLevels, by decide +kernel, by decide +kernel⟩

end Diagram

end CSurvey
