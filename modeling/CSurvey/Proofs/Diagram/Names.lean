import CSurvey.Diagram.Render
import CSurvey.Proofs.Distinct
import CSurvey.Proofs.Sorted
import Mathlib.Data.List.Perm.Subperm

/-!
# Names and identifiers of a diagram

The names of a graph are listed once each, in the order in which they appear first.
Each name that is shown has an identifier of its own: one of the numbers that are
tried makes it new, since the identifiers in use are fewer than these numbers.
-/

namespace CSurvey

namespace GraphInput

/-- All mentions of names, the declarations first. -/
def mentions (input : GraphInput) : List String :=
  input.nodes ++ input.edges.flatMap (fun edge => [edge.source, edge.target])

/-- A name is declared, or it is the end of an edge. -/
def Mentions (input : GraphInput) (name : String) : Prop :=
  name ∈ input.nodes ∨ ∃ edge ∈ input.edges, edge.source = name ∨ edge.target = name

theorem mem_mentions {input : GraphInput} {name : String} :
    name ∈ input.mentions ↔ input.Mentions name := by
  simp only [mentions, Mentions, List.mem_append, List.mem_flatMap, List.mem_cons,
    List.not_mem_nil, or_false, eq_comm (a := name)]

end GraphInput

namespace Diagram

variable {input : GraphInput}

theorem mem_namesOf {name : String} : name ∈ namesOf input ↔ input.Mentions name :=
  List.mem_eraseDups.trans GraphInput.mem_mentions

theorem nodup_namesOf (input : GraphInput) : (namesOf input).Nodup :=
  nodup_eraseDups input.mentions

theorem pairwise_namesOf (input : GraphInput) :
    (namesOf input).Pairwise (fun first second =>
      input.mentions.idxOf first < input.mentions.idxOf second) :=
  pairwise_idxOf_eraseDups input.mentions

/-- Ranking only changes the order. -/
theorem rank_perm (pairs : List Pair) (names : List String) : (rank pairs names).Perm names := by
  have sorted := (Sorted.sort_perm (fun (first second : String × Nat) => second.2 ≤ first.2)
    (names.map (fun name => (name, degreeOf pairs name)))).map (·.1)
  rw [List.map_map] at sorted
  exact sorted.trans (List.Perm.of_eq (List.map_id names))

/-- An identifier with a number after it. -/
def numberedId (base : String) (number : Nat) : String :=
  s!"{base}_{number + 2}"

theorem toList_numberedId (base : String) (number : Nat) : (numberedId base number).toList =
    base.toList ++ '_' :: Nat.toDigits 10 (number + 2) := by
  simp [numberedId, toString, Nat.toList_repr]

theorem numberedId_injective (base : String) : Function.Injective (numberedId base) := by
  intro one two same
  have digits := congrArg String.toList same
  rw [toList_numberedId, toList_numberedId, List.append_cancel_left_eq, List.cons.injEq] at digits
  have numbers := congrArg (fun digits => Nat.ofDigitChars 10 digits 0) digits.2
  simpa using numbers

theorem freshId_of_mem {used : List String} {base : String} (inUse : base ∈ used) :
    freshId used base = (((List.range (used.length + 1)).map (numberedId base)).find?
      (fun id => !used.contains id)).getD base :=
  if_pos (List.contains_iff_mem.2 inUse)

/-- Some number makes an identifier new. -/
theorem freshId_not_mem (used : List String) (base : String) : freshId used base ∉ used := by
  by_cases inUse : base ∈ used
  · have candidates : ((List.range (used.length + 1)).map (numberedId base)).Nodup :=
      List.nodup_range.map (numberedId_injective base)
    rw [freshId_of_mem inUse]
    cases found : ((List.range (used.length + 1)).map (numberedId base)).find?
        (fun id => !used.contains id) with
    | some id =>
      have new := List.find?_some found
      simpa using new
    | none =>
      -- Otherwise all numbers would be in use, and there are more of them than identifiers.
      have allUsed : (List.range (used.length + 1)).map (numberedId base) ⊆ used := by
        intro id member
        simpa using List.find?_eq_none.1 found id member
      have fewer := (candidates.subperm allUsed).length_le
      simp only [List.length_map, List.length_range] at fewer
      omega
  · have new : freshId used base = base := if_neg (by simpa using inUse)
    rwa [new]

theorem map_fst_assignIds (used names : List String) :
    (assignIds used names).map (·.1) = names := by
  induction names generalizing used with
  | nil => rfl
  | cons name rest ih => rw [assignIds, List.map_cons, ih]

/-- No identifier is given twice, and none that was in use before. -/
theorem nodup_assignIds (used names : List String) :
    ((assignIds used names).map (·.2)).Nodup ∧
      ∀ id ∈ (assignIds used names).map (·.2), id ∉ used := by
  induction names generalizing used with
  | nil => exact ⟨List.nodup_nil, by simp [assignIds]⟩
  | cons name rest ih =>
    obtain ⟨distinct, unused⟩ := ih (freshId used (NameHints.diagramId name) :: used)
    rw [assignIds, List.map_cons]
    refine ⟨List.nodup_cons.2 ⟨fun again => ?_, distinct⟩, List.forall_mem_cons.2 ⟨?_, ?_⟩⟩
    · exact unused _ again (List.mem_cons_self ..)
    · exact freshId_not_mem used _
    · exact fun id later inUse => unused id later (List.mem_cons_of_mem _ inUse)

theorem idIn_of_mem {ids : List (String × String)} (distinct : (ids.map (·.1)).Nodup)
    {entry : String × String} (member : entry ∈ ids) : idIn ids entry.1 = entry.2 := by
  rw [idIn, find?_of_mem distinct member]
  rfl

theorem map_idIn (ids : List (String × String)) (distinct : (ids.map (·.1)).Nodup) :
    (ids.map (·.1)).map (idIn ids) = ids.map (·.2) := by
  rw [List.map_map]
  exact List.map_congr_left (fun _ member => idIn_of_mem distinct member)

theorem nodup_map_idIn {names : List String} (distinct : names.Nodup) :
    (names.map (idIn (assignIds [] names))).Nodup := by
  have own := map_idIn (assignIds [] names) (by rwa [map_fst_assignIds])
  rw [map_fst_assignIds] at own
  rw [own]
  exact (nodup_assignIds [] names).1

end Diagram

end CSurvey
