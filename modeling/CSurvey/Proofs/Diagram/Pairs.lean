import CSurvey.Proofs.Diagram.Names
import CSurvey.Proofs.Sum
import CSurvey.Proofs.Tally
import Mathlib.Data.List.Induction

/-!
# Edges summed by their ends

Edges with the same ends are merged into one pair.  Merging loses nothing: whatever is
asked of the ends, the pairs that pass have together the counts of the edges that pass.
-/

namespace CSurvey

namespace GraphInput

def total (input : GraphInput) : Nat :=
  (input.edges.map InputEdge.count).sum

/-- The counts of the edges whose ends pass a test. -/
def countWhere (input : GraphInput) (test : String → String → Bool) : Nat :=
  ((input.edges.filter (fun edge => test edge.source edge.target)).map InputEdge.count).sum

/-- Some edge leads from one name to another. -/
def Joins (input : GraphInput) (source target : String) : Prop :=
  ∃ edge ∈ input.edges, edge.source = source ∧ edge.target = target

theorem Joins.mentions {input : GraphInput} {source target : String}
    (joins : input.Joins source target) : input.Mentions source ∧ input.Mentions target := by
  obtain ⟨edge, member, rfl, rfl⟩ := joins
  exact ⟨Or.inr ⟨edge, member, Or.inl rfl⟩, Or.inr ⟨edge, member, Or.inr rfl⟩⟩

end GraphInput

namespace Diagram

/-- The counts of the pairs whose ends pass a test. -/
def pairCount (test : String → String → Bool) (pairs : List Pair) : Nat :=
  ((pairs.filter (fun pair => test pair.1.1 pair.1.2)).map (·.2)).sum

theorem pairCount_cons (test : String → String → Bool) (pair : Pair) (rest : List Pair) :
    pairCount test (pair :: rest) =
      (if test pair.1.1 pair.1.2 then pair.2 else 0) + pairCount test rest := by
  unfold pairCount
  rw [List.filter_cons]
  split
  · rw [List.map_cons, List.sum_cons]
  · rw [Nat.zero_add]

/-- What is added under some ends is added to all that these ends pass for. -/
theorem pairCount_addPair (test : String → String → Bool) (key : String × String) (count : Nat)
    (pairs : List Pair) :
    pairCount test (addPair key count pairs) =
      pairCount test pairs + if test key.1 key.2 then count else 0 := by
  induction pairs with
  | nil => rw [addPair, pairCount_cons, Nat.add_comm]
  | cons pair rest ih =>
    rw [addPair]
    split
    · rename_i same
      rw [← beq_iff_eq.1 same, pairCount_cons, pairCount_cons]
      dsimp only
      split <;> omega
    · rw [pairCount_cons, pairCount_cons, ih, Nat.add_assoc]

theorem pairCount_foldl_addPair (test : String → String → Bool) (edges : List InputEdge)
    (pairs : List Pair) :
    pairCount test (edges.foldl
        (fun pairs edge => addPair (edge.source, edge.target) edge.count pairs) pairs) =
      pairCount test pairs +
        ((edges.filter (fun edge => test edge.source edge.target)).map InputEdge.count).sum := by
  induction edges generalizing pairs with
  | nil => rfl
  | cons edge rest ih =>
    rw [List.foldl_cons, ih, pairCount_addPair, List.filter_cons]
    dsimp only
    split
    · rw [List.map_cons, List.sum_cons, Nat.add_assoc]
    · rw [Nat.add_zero]

theorem pairCount_pairsOf (input : GraphInput) (test : String → String → Bool) :
    pairCount test (pairsOf input.edges) = input.countWhere test := by
  rw [pairsOf, pairCount_foldl_addPair]
  exact Nat.zero_add _

theorem map_fst_addPair (key : String × String) (count : Nat) (pairs : List Pair) :
    (addPair key count pairs).map (·.1) =
      if key ∈ pairs.map (·.1) then pairs.map (·.1) else pairs.map (·.1) ++ [key] := by
  induction pairs with
  | nil => rfl
  | cons pair rest ih =>
    rw [addPair]
    split
    · rename_i same
      rw [← beq_iff_eq.1 same, List.map_cons, List.map_cons, if_pos (List.mem_cons_self ..)]
    · rename_i different
      have other : key ≠ pair.1 := fun same => different (beq_iff_eq.2 same.symm)
      simp only [List.map_cons, ih, List.mem_cons, other, false_or]
      split <;> rfl

/-- The ends of the edges have one pair each, in the order of their first edges. -/
theorem map_fst_pairsOf (edges : List InputEdge) : (pairsOf edges).map (·.1) =
    (edges.map (fun edge => (edge.source, edge.target))).eraseDups := by
  induction edges using List.reverseRecOn with
  | nil => rfl
  | append_singleton edges edge ih =>
    have last : pairsOf (edges ++ [edge]) =
        addPair (edge.source, edge.target) edge.count (pairsOf edges) := List.foldl_concat ..
    rw [last, map_fst_addPair, ih, List.map_append, List.eraseDups_append]
    simp only [List.mem_eraseDups, List.map_cons, List.map_nil, List.removeAll]
    split
    · rename_i again
      rw [List.filter_cons_of_neg (by simpa using again), List.filter_nil, List.eraseDups_nil,
        List.append_nil]
    · rename_i new
      rw [List.filter_cons_of_pos (by simpa using new), List.filter_nil, List.eraseDups_cons,
        List.filter_nil, List.eraseDups_nil]

theorem mem_map_fst_pairsOf {input : GraphInput} {ends : String × String} :
    ends ∈ (pairsOf input.edges).map (·.1) ↔ input.Joins ends.1 ends.2 := by
  simp only [map_fst_pairsOf, List.mem_eraseDups, List.mem_map, GraphInput.Joins, Prod.ext_iff]

theorem exists_pair_iff {input : GraphInput} {ends : String × String} :
    (∃ pair ∈ pairsOf input.edges, pair.1 = ends) ↔ input.Joins ends.1 ends.2 :=
  List.mem_map.symm.trans mem_map_fst_pairsOf

theorem nodup_map_fst_pairsOf (edges : List InputEdge) : ((pairsOf edges).map (·.1)).Nodup := by
  rw [map_fst_pairsOf]
  exact nodup_eraseDups _

theorem pairCount_of_mem {pairs : List Pair} (distinct : (pairs.map (·.1)).Nodup) {pair : Pair}
    (member : pair ∈ pairs) :
    pairCount (fun source target => (source, target) == pair.1) pairs = pair.2 := by
  induction pairs with
  | nil => cases member
  | cons head rest ih =>
    obtain ⟨apart, distinct⟩ := List.nodup_cons.1 (List.map_cons ▸ distinct)
    rw [pairCount_cons]
    rcases List.mem_cons.1 member with rfl | later
    · have nothing : rest.filter (fun other => (other.1.1, other.1.2) == pair.1) = [] := by
        rw [List.filter_eq_nil_iff]
        intro other inRest same
        have own : other.1 = pair.1 := beq_iff_eq.1 same
        exact apart (own ▸ List.mem_map_of_mem inRest)
      simp [pairCount, nothing]
    · have other : ((head.1.1, head.1.2) == pair.1) = false := by
        rw [beq_eq_false_iff_ne]
        intro same
        have own : head.1 = pair.1 := same
        exact apart (own ▸ List.mem_map_of_mem later)
      rw [other, if_neg Bool.false_ne_true, Nat.zero_add, ih distinct later]

theorem mem_pairsOf {input : GraphInput} {pair : Pair} :
    pair ∈ pairsOf input.edges ↔ input.Joins pair.1.1 pair.1.2 ∧
      pair.2 = input.countWhere (fun source target => (source, target) == pair.1) := by
  have distinct := nodup_map_fst_pairsOf input.edges
  constructor
  · intro member
    refine ⟨mem_map_fst_pairsOf.1 (List.mem_map_of_mem member), ?_⟩
    rw [← pairCount_pairsOf, pairCount_of_mem distinct member]
  · rintro ⟨joins, count⟩
    obtain ⟨other, member, ends⟩ := List.mem_map.1 (mem_map_fst_pairsOf.2 joins)
    have same := pairCount_of_mem distinct member
    rw [pairCount_pairsOf, ends, ← count] at same
    exact Prod.ext ends same.symm ▸ member

/-- The tally of one end of the pairs that pass a test. -/
def tallyEnd (selected : String → String → Bool) (part : String × String → String)
    (pairs : List Pair) : Tally :=
  Tally.ofPairs ((pairs.filter (fun pair => selected pair.1.1 pair.1.2)).map
    (fun pair => (part pair.1, pair.2)))

section Ends

variable {input : GraphInput} (selected : String → String → Bool)
  (part : String × String → String)

theorem mem_names_tallyEnd {name : String} :
    name ∈ (tallyEnd selected part (pairsOf input.edges)).names ↔
      ∃ source target, input.Joins source target ∧ selected source target = true ∧
        part (source, target) = name := by
  rw [tallyEnd, Tally.mem_names_ofPairs, List.map_map]
  constructor
  · intro member
    obtain ⟨pair, found, rfl⟩ := List.mem_map.1 member
    obtain ⟨inPairs, passes⟩ := List.mem_filter.1 found
    exact ⟨pair.1.1, pair.1.2, mem_map_fst_pairsOf.1 (List.mem_map_of_mem inPairs), passes, rfl⟩
  · rintro ⟨source, target, joins, passes, rfl⟩
    obtain ⟨pair, inPairs, ends⟩ :
        ∃ pair ∈ pairsOf input.edges, pair.1 = (source, target) := exists_pair_iff.2 joins
    refine List.mem_map.2 ⟨pair, List.mem_filter.2 ⟨inPairs, ?_⟩, ?_⟩
    · rw [ends]
      exact passes
    · rw [Function.comp_apply, ends]

theorem exists_entry_tallyEnd {pairs : List Pair} {pair : Pair} (member : pair ∈ pairs)
    (passes : selected pair.1.1 pair.1.2 = true) :
    ∃ entry ∈ (tallyEnd selected part pairs).entries, pair.2 ≤ entry.2 := by
  have counted : (part pair.1, pair.2) ∈ (pairs.filter (fun pair =>
      selected pair.1.1 pair.1.2)).map (fun pair => (part pair.1, pair.2)) :=
    List.mem_map.2 ⟨pair, List.mem_filter.2 ⟨member, passes⟩, rfl⟩
  exact Tally.exists_entry_of_mem counted

theorem sum_tallyEnd :
    ((tallyEnd selected part (pairsOf input.edges)).entries.map (·.2)).sum =
      input.countWhere selected := by
  rw [tallyEnd, Tally.sum_ofPairs, List.map_map, ← pairCount_pairsOf]
  rfl

theorem count_tallyEnd (name : String) :
    (tallyEnd selected part (pairsOf input.edges)).count name =
      input.countWhere (fun source target =>
        selected source target && part (source, target) == name) := by
  rw [tallyEnd, Tally.count_ofPairs, ← pairCount_pairsOf, pairCount, List.filter_map,
    List.filter_filter, List.map_map]
  simp only [Function.comp_def, Bool.and_comm]

end Ends

end Diagram

end CSurvey
