import CSurvey.Proofs.Distinct
import CSurvey.Proofs.Walk.Reach
import Mathlib.Order.Bounds.Basic
import Mathlib.Order.MinMax
import Mathlib.Order.Nat

/-!
# Levels are distances

The distance of a node from some roots is the length of a shortest path from any of
them.  A walk gives each node that it meets this distance as its level: after each
round it has met exactly the nodes up to some distance, and the nodes met last are
those at that distance.
-/

namespace CSurvey.Walk

open Relation (ReflTransGen)

/-- A path of the given length leads from `source` to a node. -/
inductive Path {α : Type} (step : α → α → Prop) (source : α) : Nat → α → Prop
  | here : Path step source 0 source
  | onward {length : Nat} {middle target : α} (before : Path step source length middle)
      (leads : step middle target) : Path step source (length + 1) target

/-- The shortest paths from any of the roots to a node have the given length. -/
def IsDistance {α : Type} (step : α → α → Prop) (roots : Set α) (node : α) (distance : Nat) :
    Prop :=
  IsLeast {length | ∃ root ∈ roots, Path step root length node} distance

section Distance

variable {α : Type} {step : α → α → Prop} {roots : Set α} {source node target : α}
  {distance length : Nat}

theorem Path.reflTransGen (path : Path step source length target) :
    ReflTransGen step source target := by
  induction path with
  | here => exact .refl
  | onward _ leads ih => exact ih.tail leads

theorem exists_path_of_reflTransGen (reaches : ReflTransGen step source target) :
    ∃ length, Path step source length target := by
  induction reaches with
  | refl => exact ⟨0, .here⟩
  | tail _ leads ih =>
    obtain ⟨length, path⟩ := ih
    exact ⟨length + 1, path.onward leads⟩

/-- What paths lead to has a distance. -/
theorem exists_isDistance_iff :
    (∃ distance, IsDistance step roots node distance) ↔
      ∃ root ∈ roots, ReflTransGen step root node := by
  constructor
  · rintro ⟨distance, ⟨root, isRoot, path⟩, -⟩
    exact ⟨root, isRoot, path.reflTransGen⟩
  · rintro ⟨root, isRoot, reaches⟩
    obtain ⟨length, path⟩ := exists_path_of_reflTransGen reaches
    have reached : ∃ length, ∃ root ∈ roots, Path step root length node :=
      ⟨length, root, isRoot, path⟩
    classical exact ⟨Nat.find reached, Nat.isLeast_find reached⟩

theorem isDistance_zero_iff : IsDistance step roots node 0 ↔ node ∈ roots := by
  constructor
  · rintro ⟨⟨root, isRoot, path⟩, -⟩
    cases path
    exact isRoot
  · exact fun isRoot => ⟨⟨node, isRoot, .here⟩, fun _ _ => Nat.zero_le _⟩

theorem IsDistance.exists_after (near : IsDistance step roots node distance)
    (leads : step node target) : ∃ next ≤ distance + 1, IsDistance step roots target next := by
  obtain ⟨root, isRoot, path⟩ := near.1
  obtain ⟨next, least⟩ := exists_isDistance_iff.2 ⟨root, isRoot, path.reflTransGen.tail leads⟩
  exact ⟨next, least.2 ⟨root, isRoot, path.onward leads⟩, least⟩

/-- The last step of a shortest path comes from a node that is one step nearer. -/
theorem IsDistance.exists_before (far : IsDistance step roots target (distance + 1)) :
    ∃ node, IsDistance step roots node distance ∧ step node target := by
  obtain ⟨root, isRoot, path⟩ := far.1
  cases path with
  | onward before leads =>
    refine ⟨_, ⟨⟨root, isRoot, before⟩, ?_⟩, leads⟩
    rintro shorter ⟨other, isOther, path⟩
    exact Nat.le_of_succ_le_succ (far.2 ⟨other, isOther, path.onward leads⟩)

end Distance

section Rounds

variable {α : Type} [DecidableEq α] {edges : List (α × α)} {roots : List α} {level : Nat}
  {frontier : List α} {met : List (α × Nat)}

/-- A walk has met the nodes up to a distance, each once, and those at that distance last. -/
structure MetUpTo (edges : List (α × α)) (roots : List α) (level : Nat) (frontier : List α)
    (met : List (α × Nat)) : Prop where
  entries : ∀ node distance, (node, distance) ∈ met ↔
    distance ≤ level ∧ IsDistance (Leads edges) {root | root ∈ roots} node distance
  frontier : ∀ node, node ∈ frontier ↔ IsDistance (Leads edges) {root | root ∈ roots} node level
  once : (met.map (·.1)).Nodup

theorem metUpTo_start (edges : List (α × α)) (roots : List α) :
    MetUpTo edges roots 0 roots.eraseDups (roots.eraseDups.map (fun node => (node, 0))) where
  entries node distance := by
    rw [List.mem_map, Nat.le_zero]
    constructor
    · rintro ⟨root, isRoot, same⟩
      obtain ⟨rfl, rfl⟩ := Prod.mk.inj same
      exact ⟨rfl, isDistance_zero_iff.2 (Set.mem_ofPred.2 (List.mem_eraseDups.1 isRoot))⟩
    · rintro ⟨rfl, near⟩
      exact ⟨node, List.mem_eraseDups.2 (Set.mem_ofPred.1 (isDistance_zero_iff.1 near)), rfl⟩
  frontier node := List.mem_eraseDups.trans (Set.mem_ofPred.symm.trans isDistance_zero_iff.symm)
  once := by
    rw [List.map_map]
    exact (List.map_id roots.eraseDups).symm ▸ nodup_eraseDups roots

theorem MetUpTo.isMet_iff (upTo : MetUpTo edges roots level frontier met) {node : α} :
    isMet met node = true ↔
      ∃ distance ≤ level, IsDistance (Leads edges) {root | root ∈ roots} node distance := by
  rw [Walk.isMet_iff, List.mem_map]
  constructor
  · rintro ⟨⟨node, distance⟩, member, rfl⟩
    exact ⟨distance, (upTo.entries node distance).1 member⟩
  · rintro ⟨distance, near⟩
    exact ⟨(node, distance), (upTo.entries node distance).2 near, rfl⟩

/-- The nodes that a round meets are one step farther away than those met last. -/
theorem MetUpTo.mem_newlyMet_iff (upTo : MetUpTo edges roots level frontier met) {node : α} :
    node ∈ newlyMet edges met frontier ↔
      IsDistance (Leads edges) {root | root ∈ roots} node (level + 1) := by
  rw [mem_newlyMet, ← Bool.not_eq_true, upTo.isMet_iff]
  constructor
  · rintro ⟨⟨source, inFrontier, leads⟩, far⟩
    obtain ⟨distance, bound, least⟩ := ((upTo.frontier source).1 inFrontier).exists_after leads
    rcases Nat.le_succ_iff.1 bound with near | rfl
    · exact absurd ⟨distance, near, least⟩ far
    · exact least
  · intro least
    obtain ⟨source, near, leads⟩ := least.exists_before
    refine ⟨⟨source, (upTo.frontier source).2 near, leads⟩, ?_⟩
    rintro ⟨distance, near, other⟩
    have same : distance = level + 1 := other.unique least
    omega

/-- A round goes one step farther. -/
theorem MetUpTo.round (upTo : MetUpTo edges roots level frontier met) :
    MetUpTo edges roots (level + 1) (newlyMet edges met frontier)
      (met ++ (newlyMet edges met frontier).map (fun node => (node, level + 1))) where
  entries node distance := by
    rw [List.mem_append, upTo.entries, List.mem_map]
    constructor
    · rintro (⟨near, least⟩ | ⟨next, new, same⟩)
      · exact ⟨Nat.le_succ_of_le near, least⟩
      · obtain ⟨rfl, rfl⟩ := Prod.mk.inj same
        exact ⟨Nat.le_refl _, upTo.mem_newlyMet_iff.1 new⟩
    · rintro ⟨bound, least⟩
      rcases Nat.le_succ_iff.1 bound with near | rfl
      · exact Or.inl ⟨near, least⟩
      · exact Or.inr ⟨node, upTo.mem_newlyMet_iff.2 least, rfl⟩
  frontier node := upTo.mem_newlyMet_iff
  once := by
    rw [List.map_append, List.map_map]
    refine upTo.once.append ((List.map_id _).symm ▸ nodup_eraseDups _) ?_
    intro node old new
    obtain ⟨-, notMet⟩ := mem_newlyMet.1 (List.map_id _ ▸ new)
    rw [Walk.isMet_iff.2 old] at notMet
    cases notMet

theorem MetUpTo.rounds (upTo : MetUpTo edges roots level frontier met) (count : Nat) :
    ∃ last final, MetUpTo edges roots last final (rounds edges count level frontier met) := by
  induction count generalizing level frontier met with
  | zero => exact ⟨level, frontier, upTo⟩
  | succ count ih =>
    rw [Walk.rounds]
    split
    · exact ⟨level, frontier, upTo⟩
    · exact ih upTo.round

end Rounds

section Levels

variable {α : Type} [DecidableEq α] (edges : List (α × α)) (roots : List α)

theorem exists_metUpTo_levels : ∃ last final, MetUpTo edges roots last final (levels edges roots) :=
  (metUpTo_start edges roots).rounds edges.length

theorem nodup_reachable : (reachable edges roots).Nodup := by
  obtain ⟨_, _, upTo⟩ := exists_metUpTo_levels edges roots
  exact upTo.once

variable {edges roots}

theorem mem_levels {node : α} {distance : Nat} :
    (node, distance) ∈ levels edges roots ↔
      IsDistance (Leads edges) {root | root ∈ roots} node distance := by
  obtain ⟨last, _, upTo⟩ := exists_metUpTo_levels edges roots
  constructor
  · exact fun member => ((upTo.entries node distance).1 member).2
  · intro least
    -- The walk stops only when everything that paths lead to is met.
    have reached : node ∈ reachable edges roots :=
      mem_reachable.2 (exists_isDistance_iff.1 ⟨distance, least⟩)
    obtain ⟨entry, member, rfl⟩ := List.mem_map.1 reached
    have same : entry.2 = distance := ((upTo.entries entry.1 entry.2).1 member).2.unique least
    exact same ▸ member

end Levels

/-- The largest level is one of the levels, or zero if there are none. -/
theorem isGreatest_depth {α : Type} (met : List (α × Nat)) :
    IsGreatest {level | level = 0 ∨ ∃ node, (node, level) ∈ met} (depth met) := by
  suffices general : ∀ first, IsGreatest {level | level = first ∨ ∃ node, (node, level) ∈ met}
      ((met.map (·.2)).foldl max first) from general 0
  induction met with
  | nil => simp [IsGreatest, upperBounds]
  | cons entry rest ih =>
    intro first
    obtain ⟨isOne, largest⟩ := ih (max first entry.2)
    rw [List.map_cons, List.foldl_cons]
    constructor
    · rcases isOne with same | ⟨node, member⟩
      · rw [same]
        rcases max_choice first entry.2 with isFirst | isEntry
        · exact Or.inl isFirst
        · exact Or.inr ⟨entry.1, isEntry.symm ▸ List.mem_cons_self ..⟩
      · exact Or.inr ⟨node, List.mem_cons_of_mem _ member⟩
    · have bound := largest (Or.inl rfl)
      rintro level (rfl | ⟨node, member⟩)
      · exact (le_max_left ..).trans bound
      · rcases List.mem_cons.1 member with rfl | later
        · exact (le_max_right ..).trans bound
        · exact largest (Or.inr ⟨node, later⟩)

end CSurvey.Walk
