import CSurvey.Sum

/-!
# Tallies

A tally counts names.  It holds each name once, in the order of the names, so
that equal counts make equal tallies whatever the order in which they came.
-/

namespace CSurvey

/-- Names with their counts, sorted by name without repetition. -/
structure Tally where
  entries : List (String × Nat)
  sorted : entries.Pairwise (fun first second => first.1 < second.1)
deriving DecidableEq

namespace Tally

/-- Add to the count of one name in a sorted list. -/
def insertCount (name : String) (count : Nat) : List (String × Nat) → List (String × Nat)
  | [] => [(name, count)]
  | entry :: rest =>
    if name < entry.1 then (name, count) :: entry :: rest
    else if name = entry.1 then (name, entry.2 + count) :: rest
    else entry :: insertCount name count rest

theorem mem_insertCount {name : String} {count : Nat} {entries : List (String × Nat)}
    {entry : String × Nat} (member : entry ∈ insertCount name count entries) :
    entry.1 = name ∨ entry ∈ entries := by
  induction entries with
  | nil =>
    simp only [insertCount, List.mem_singleton] at member
    simp [member]
  | cons head rest ih =>
    simp only [insertCount] at member
    split at member
    · rcases List.mem_cons.1 member with rfl | member
      · simp
      · exact Or.inr member
    · split at member
      · rcases List.mem_cons.1 member with rfl | member
        · simp
        · exact Or.inr (List.mem_cons_of_mem _ member)
      · rcases List.mem_cons.1 member with rfl | member
        · exact Or.inr (List.mem_cons_self ..)
        · rcases ih member with same | inRest
          · exact Or.inl same
          · exact Or.inr (List.mem_cons_of_mem _ inRest)

theorem insertCount_sorted (name : String) (count : Nat) {entries : List (String × Nat)}
    (sorted : entries.Pairwise (fun first second => first.1 < second.1)) :
    (insertCount name count entries).Pairwise (fun first second => first.1 < second.1) := by
  induction entries with
  | nil => simp [insertCount]
  | cons head rest ih =>
    have ⟨headLt, restSorted⟩ := List.pairwise_cons.1 sorted
    simp only [insertCount]
    split
    · rename_i before
      refine List.pairwise_cons.2 ⟨fun entry member => ?_, sorted⟩
      rcases List.mem_cons.1 member with rfl | member
      · exact before
      · exact String.lt_trans before (headLt entry member)
    · rename_i notBefore
      split
      · rename_i same
        exact List.pairwise_cons.2 ⟨fun entry member => same ▸ headLt entry member, restSorted⟩
      · rename_i different
        refine List.pairwise_cons.2 ⟨fun entry member => ?_, ih restSorted⟩
        rcases mem_insertCount member with same | inRest
        · rw [same]
          rcases String.le_total head.1 name with le | le
          · exact Classical.byContradiction fun notLt =>
              different (String.le_antisymm (String.not_lt.1 notLt) le)
          · exact absurd (String.le_antisymm le (String.not_lt.1 notBefore)) different
        · exact headLt entry inRest

/-- No names. -/
def empty : Tally :=
  ⟨[], .nil⟩

instance : Inhabited Tally :=
  ⟨empty⟩

instance : EmptyCollection Tally :=
  ⟨empty⟩

def add (counts : Tally) (name : String) (count : Nat) : Tally :=
  ⟨insertCount name count counts.entries, insertCount_sorted name count counts.sorted⟩

def ofPairs (pairs : List (String × Nat)) : Tally :=
  pairs.foldl (fun counts pair => counts.add pair.1 pair.2) empty

def ofNames (names : List String) : Tally :=
  names.foldl (fun counts name => counts.add name 1) empty

/-- The count of a name, zero when the tally does not hold it. -/
def count (counts : Tally) (name : String) : Nat :=
  ((counts.entries.find? (fun entry => entry.1 == name)).map (·.2)).getD 0

def names (counts : Tally) : List String :=
  counts.entries.map (·.1)

def isEmpty (counts : Tally) : Bool :=
  counts.entries.isEmpty

def total (counts : Tally) : Nat :=
  (counts.entries.map (·.2)).sum

end Tally

end CSurvey
