import CSurvey.CallGraph.Build
import CSurvey.Proofs.Walk.Reach
import Mathlib.Data.List.Sort
import Mathlib.Data.String.Basic

/-!
# Groups of names that reach each other

Names in order are put into groups, each with the first name that is in no group
yet.  If being alike is an equivalence, the groups are its classes: every name is
in one of them, a group holds all names alike to its first one in order, and the
groups are sorted by their first names.
-/

namespace CSurvey.CallGraph

open Relation (ReflTransGen)

/-- The group of all names alike to its first one, in the order of the names. -/
def IsGroup (Alike : String → String → Prop) (names group : List String) : Prop :=
  ∃ first rest, group = first :: rest ∧ group.Sublist names ∧
    ∀ name, name ∈ group ↔ name ∈ names ∧ Alike first name

section Group

variable {Alike : String → String → Prop} {names group : List String}

theorem IsGroup.pairwise (isGroup : IsGroup Alike names group) (sorted : names.Pairwise (· < ·)) :
    group.Pairwise (· < ·) := by
  obtain ⟨first, rest, -, inOrder, -⟩ := isGroup
  exact sorted.sublist inOrder

theorem IsGroup.mem_iff (equivalence : Equivalence Alike) (isGroup : IsGroup Alike names group)
    {name other : String} (member : name ∈ group) :
    other ∈ group ↔ other ∈ names ∧ Alike name other := by
  obtain ⟨first, rest, -, -, members⟩ := isGroup
  have alike := ((members name).1 member).2
  rw [members]
  constructor
  · exact fun ⟨isName, fromFirst⟩ => ⟨isName, equivalence.trans (equivalence.symm alike) fromFirst⟩
  · exact fun ⟨isName, fromName⟩ => ⟨isName, equivalence.trans alike fromName⟩

theorem IsGroup.eq_of_mem (equivalence : Equivalence Alike) (sorted : names.Pairwise (· < ·))
    {first second : List String} (isFirst : IsGroup Alike names first)
    (isSecond : IsGroup Alike names second) {name : String} (inFirst : name ∈ first)
    (inSecond : name ∈ second) : first = second := by
  refine (isFirst.pairwise sorted).eq_of_mem_iff (isSecond.pairwise sorted) (fun other => ?_)
  rw [isFirst.mem_iff equivalence inFirst, isSecond.mem_iff equivalence inSecond]

end Group

section Table

variable {Alike : String → String → Prop} {table : List (String × List String)}

/-- The names of two entries are alike if and only if each is among those that the other reaches. -/
def Decides (table : List (String × List String)) (Alike : String → String → Prop) : Prop :=
  ∀ one ∈ table, ∀ two ∈ table,
    (one.2.contains two.1 && two.2.contains one.1) = true ↔ Alike one.1 two.1

theorem Decides.tail {entry : String × List String} (decides : Decides (entry :: table) Alike) :
    Decides table Alike :=
  fun one first two second =>
    decides one (List.mem_cons_of_mem _ first) two (List.mem_cons_of_mem _ second)

theorem mem_first_group {name : String} {reached : List String}
    (decides : Decides ((name, reached) :: table) Alike) (other : String) :
    other ∈ (table.filter (fun entry =>
        reached.contains entry.1 && entry.2.contains name)).map (·.1) ↔
      other ∈ table.map (·.1) ∧ Alike name other := by
  have test : ∀ entry ∈ table,
      (reached.contains entry.1 && entry.2.contains name) = true ↔ Alike name entry.1 :=
    fun entry member => decides _ (List.mem_cons_self ..) entry (List.mem_cons_of_mem _ member)
  simp only [List.mem_map, List.mem_filter]
  constructor
  · rintro ⟨entry, ⟨member, passes⟩, rfl⟩
    exact ⟨⟨entry, member, rfl⟩, (test entry member).1 passes⟩
  · rintro ⟨⟨entry, member, rfl⟩, alike⟩
    exact ⟨entry, ⟨member, (test entry member).2 alike⟩, rfl⟩

theorem length_groups_le (table : List (String × List String)) :
    (groups table).length ≤ table.length := by
  induction table with
  | nil => exact Nat.le_refl _
  | cons entry rest ih => exact Nat.succ_le_succ ((List.length_filter_le ..).trans ih)

variable (equivalence : Equivalence Alike)
include equivalence

theorem isGroup_of_mem_groups (decides : Decides table Alike) {group : List String}
    (member : group ∈ groups table) : IsGroup Alike (table.map (·.1)) group := by
  induction table generalizing group with
  | nil => cases member
  | cons entry rest ih =>
    obtain ⟨name, reached⟩ := entry
    have alikeFirst := fun other => mem_first_group decides other
    rw [groups] at member
    rcases List.mem_cons.1 member with rfl | later
    · refine ⟨name, _, rfl, ((List.filter_sublist ..).map _).cons_cons name, fun other => ?_⟩
      rw [List.mem_cons, alikeFirst, List.map_cons, List.mem_cons]
      constructor
      · rintro (rfl | ⟨inRest, alike⟩)
        · exact ⟨Or.inl rfl, equivalence.refl _⟩
        · exact ⟨Or.inr inRest, alike⟩
      · rintro ⟨rfl | inRest, alike⟩
        · exact Or.inl rfl
        · exact Or.inr ⟨inRest, alike⟩
    · obtain ⟨inGroups, apart⟩ := List.mem_filter.1 later
      obtain ⟨first, others, rfl, inOrder, members⟩ := ih decides.tail inGroups
      -- A later group is kept only if the first group does not hold its first name.
      have notAlike : ¬ Alike name first := by
        intro alike
        have inRest := ((members first).1 (List.mem_cons_self ..)).1
        have inFirst := (alikeFirst first).2 ⟨inRest, alike⟩
        simp only [List.head?_cons, Option.any_some, List.contains_iff_mem.2 inFirst] at apart
        cases apart
      refine ⟨first, others, rfl, inOrder.cons name, fun other => ?_⟩
      rw [members, List.map_cons, List.mem_cons]
      constructor
      · exact fun ⟨inRest, alike⟩ => ⟨Or.inr inRest, alike⟩
      · rintro ⟨rfl | inRest, alike⟩
        · exact absurd (equivalence.symm alike) notAlike
        · exact ⟨inRest, alike⟩

theorem exists_group_of_mem (decides : Decides table Alike) {name : String}
    (member : name ∈ table.map (·.1)) : ∃ group ∈ groups table, name ∈ group := by
  induction table with
  | nil => cases member
  | cons entry rest ih =>
    obtain ⟨head, reached⟩ := entry
    rw [groups]
    by_cases inFirst : name ∈ head :: (rest.filter (fun entry =>
        reached.contains entry.1 && entry.2.contains head)).map (·.1)
    · exact ⟨_, List.mem_cons_self .., inFirst⟩
    · rw [List.mem_cons, mem_first_group decides, not_or] at inFirst
      obtain ⟨different, notFirst⟩ := inFirst
      have inRest := (List.mem_cons.1 member).resolve_left different
      obtain ⟨group, inGroups, inGroup⟩ := ih decides.tail inRest
      refine ⟨group, List.mem_cons_of_mem _ (List.mem_filter.2 ⟨inGroups, ?_⟩), inGroup⟩
      obtain ⟨first, others, rfl, -, members⟩ :=
        isGroup_of_mem_groups equivalence decides.tail inGroups
      -- A group whose first name is alike to the head would put the name into the first group.
      rw [List.head?_cons, Option.any_some, Bool.not_eq_true', ← Bool.not_eq_true,
        List.contains_iff_mem, mem_first_group decides]
      rintro ⟨-, alike⟩
      exact notFirst ⟨inRest, equivalence.trans alike ((members name).1 inGroup).2⟩

theorem existsUnique_group_of_mem (decides : Decides table Alike)
    (sorted : (table.map (·.1)).Pairwise (· < ·)) {name : String}
    (member : name ∈ table.map (·.1)) : ∃! group, group ∈ groups table ∧ name ∈ group := by
  obtain ⟨group, inGroups, inGroup⟩ := exists_group_of_mem equivalence decides member
  refine ⟨group, ⟨inGroups, inGroup⟩, ?_⟩
  rintro other ⟨alsoInGroups, inOther⟩
  exact (isGroup_of_mem_groups equivalence decides alsoInGroups).eq_of_mem equivalence sorted
    (isGroup_of_mem_groups equivalence decides inGroups) inOther inGroup

theorem pairwise_groups (decides : Decides table Alike)
    (sorted : (table.map (·.1)).Pairwise (· < ·)) : (groups table).Pairwise (· < ·) := by
  induction table with
  | nil => exact .nil
  | cons entry rest ih =>
    obtain ⟨name, reached⟩ := entry
    rw [List.map_cons, List.pairwise_cons] at sorted
    rw [groups]
    refine List.pairwise_cons.2 ⟨?_, (ih decides.tail sorted.2).filter _⟩
    intro group member
    obtain ⟨first, others, rfl, -, members⟩ :=
      isGroup_of_mem_groups equivalence decides.tail (List.mem_filter.1 member).1
    have inRest := ((members first).1 (List.mem_cons_self ..)).1
    exact .rel (sorted.1 first inRest)

end Table

section Reach

variable {steps : List (String × String)} {names : List String}

/-- Each of two nodes is reached from the other. -/
def Mutual (step : String → String → Prop) (first second : String) : Prop :=
  ReflTransGen step first second ∧ ReflTransGen step second first

theorem Mutual.equivalence (step : String → String → Prop) : Equivalence (Mutual step) where
  refl _ := ⟨.refl, .refl⟩
  symm := And.symm
  trans first second := ⟨first.1.trans second.1, second.2.trans first.2⟩

theorem map_reachTable : (reachTable steps names).map (·.1) = names := by
  rw [reachTable, List.map_map]
  exact List.map_id names

theorem decides_reachTable (steps : List (String × String)) (names : List String) :
    Decides (reachTable steps names) (Mutual (Walk.Leads steps)) := by
  intro one first two second
  obtain ⟨name, -, rfl⟩ := List.mem_map.1 first
  obtain ⟨other, -, rfl⟩ := List.mem_map.1 second
  simp [Walk.mem_reachable, Mutual]

end Reach

end CSurvey.CallGraph
