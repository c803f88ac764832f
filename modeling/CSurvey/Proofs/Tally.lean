import CSurvey.Proofs.Sum
import CSurvey.Tally
import Mathlib.Data.List.Perm.Basic

/-!
# Counting with tallies

What is added to a tally adds up by name, in any order: the count of a name is the
sum of what was added under it, a tally holds exactly the names that were counted,
and all its counts together are all that was added.
-/

namespace CSurvey

namespace Tally

theorem insertCount_comm (first second : String) (one two : Nat)
    (entries : List (String × Nat)) :
    insertCount first one (insertCount second two entries) =
      insertCount second two (insertCount first one entries) := by
  -- Each of the two names comes before the head, is the head, or goes further.
  induction entries with
  | nil => grind [insertCount]
  | cons entry rest ih => grind [insertCount]

theorem add_comm (counts : Tally) (first second : String × Nat) :
    (counts.add first.1 first.2).add second.1 second.2 =
      (counts.add second.1 second.2).add first.1 first.2 := by
  simp only [add, insertCount_comm first.1]

/-- Counts add up in any order. -/
theorem ofPairs_perm {first second : List (String × Nat)} (same : first.Perm second) :
    ofPairs first = ofPairs second :=
  same.foldl_eq' (fun one _ two _ counts => add_comm counts one two) empty

theorem ofNames_perm {first second : List String} (same : first.Perm second) :
    ofNames first = ofNames second :=
  same.foldl_eq' (fun one _ two _ counts => add_comm counts (one, 1) (two, 1)) empty

theorem mem_map_insertCount {name other : String} {count : Nat} {entries : List (String × Nat)} :
    other ∈ (insertCount name count entries).map (·.1) ↔
      other = name ∨ other ∈ entries.map (·.1) := by
  induction entries with
  | nil => simp [insertCount]
  | cons entry rest ih =>
    rw [insertCount]
    split
    · simp
    · split
      · rename_i here
        simp [here]
      · rw [List.map_cons, List.mem_cons, ih, List.map_cons, List.mem_cons]
        exact or_left_comm

/-- A tally holds exactly the names that were counted. -/
theorem mem_names_ofNames {names : List String} {name : String} :
    name ∈ (ofNames names).names ↔ name ∈ names := by
  suffices general : ∀ counts : Tally,
      name ∈ (names.foldl (fun counts name => counts.add name 1) counts).names ↔
        name ∈ counts.names ∨ name ∈ names by
    rw [ofNames, general empty]
    exact or_iff_right List.not_mem_nil
  induction names with
  | nil => simp
  | cons head rest ih =>
    intro counts
    have added : name ∈ (counts.add head 1).names ↔ name = head ∨ name ∈ counts.names :=
      mem_map_insertCount
    rw [List.foldl_cons, ih, added, List.mem_cons, or_assoc, or_left_comm]

theorem mem_names_add {counts : Tally} {name other : String} {count : Nat} :
    other ∈ (counts.add name count).names ↔ other = name ∨ other ∈ counts.names :=
  mem_map_insertCount

theorem mem_names_ofPairs {pairs : List (String × Nat)} {name : String} :
    name ∈ (ofPairs pairs).names ↔ name ∈ pairs.map (·.1) := by
  suffices general : ∀ counts : Tally,
      name ∈ (pairs.foldl (fun counts pair => counts.add pair.1 pair.2) counts).names ↔
        name ∈ counts.names ∨ name ∈ pairs.map (·.1) by
    rw [ofPairs, general empty]
    exact or_iff_right List.not_mem_nil
  induction pairs with
  | nil => simp
  | cons pair rest ih =>
    intro counts
    rw [List.foldl_cons, ih, mem_names_add, List.map_cons, List.mem_cons, or_assoc, or_left_comm]

/-- The count under a name in sorted entries, zero when they do not hold it. -/
def countIn (entries : List (String × Nat)) (name : String) : Nat :=
  ((entries.find? (fun entry => entry.1 == name)).map (·.2)).getD 0

theorem countIn_cons (entry : String × Nat) (rest : List (String × Nat)) (name : String) :
    countIn (entry :: rest) name = if entry.1 = name then entry.2 else countIn rest name := by
  by_cases here : entry.1 = name <;> simp [countIn, here]

theorem countIn_eq_zero {entries : List (String × Nat)} {name : String}
    (other : name ∉ entries.map (·.1)) : countIn entries name = 0 := by
  have nothing : entries.find? (fun entry => entry.1 == name) = none := by
    rw [List.find?_eq_none]
    intro entry member same
    exact other (beq_iff_eq.1 same ▸ List.mem_map_of_mem member)
  rw [countIn, nothing]
  rfl

theorem countIn_insertCount (name other : String) (count : Nat) {entries : List (String × Nat)}
    (sorted : entries.Pairwise (fun first second => first.1 < second.1)) :
    countIn (insertCount name count entries) other =
      countIn entries other + if name = other then count else 0 := by
  induction entries with
  | nil =>
    have nothing : countIn [] other = 0 := rfl
    rw [insertCount, countIn_cons, nothing, Nat.zero_add]
  | cons entry rest ih =>
    obtain ⟨later, sorted⟩ := List.pairwise_cons.1 sorted
    rw [insertCount]
    split
    · rename_i before
      by_cases same : name = other
      · -- A name before the first one is not among the entries.
        subst same
        have absent : name ∉ (entry :: rest).map (·.1) := by
          rw [List.map_cons, List.mem_cons, List.mem_map, not_or]
          refine ⟨fun here => String.lt_irrefl _ (here ▸ before), ?_⟩
          rintro ⟨further, isFurther, there⟩
          exact String.lt_asymm before (there ▸ later further isFurther)
        rw [countIn_cons, countIn_eq_zero absent, Nat.zero_add]
      · rw [countIn_cons, if_neg same, if_neg same, Nat.add_zero]
    · split
      · rename_i same
        rw [countIn_cons, countIn_cons, same]
        split <;> rfl
      · rename_i different
        rw [countIn_cons, countIn_cons, ih sorted]
        split
        · rename_i here
          rw [if_neg (fun same => different (same.trans here.symm)), Nat.add_zero]
        · rfl

theorem count_add (counts : Tally) (name other : String) (count : Nat) :
    (counts.add name count).count other =
      counts.count other + if name = other then count else 0 :=
  countIn_insertCount name other count counts.sorted

theorem count_foldl_add (pairs : List (String × Nat)) (counts : Tally) (name : String) :
    (pairs.foldl (fun counts pair => counts.add pair.1 pair.2) counts).count name =
      counts.count name + ((pairs.filter (fun pair => pair.1 == name)).map (·.2)).sum := by
  induction pairs generalizing counts with
  | nil => simp
  | cons pair rest ih =>
    rw [List.foldl_cons, ih, count_add]
    by_cases here : pair.1 = name
    · simp [here, Nat.add_assoc]
    · simp [here]

theorem count_ofPairs (pairs : List (String × Nat)) (name : String) :
    (ofPairs pairs).count name =
      ((pairs.filter (fun pair => pair.1 == name)).map (·.2)).sum := by
  rw [ofPairs, count_foldl_add]
  exact Nat.zero_add _

theorem sum_filter_insertCount (test : String → Bool) (name : String) (count : Nat)
    (entries : List (String × Nat)) :
    (((insertCount name count entries).filter (fun entry => test entry.1)).map (·.2)).sum =
      ((entries.filter (fun entry => test entry.1)).map (·.2)).sum +
        if test name then count else 0 := by
  induction entries with
  | nil => cases passes : test name <;> simp [insertCount, passes]
  | cons entry rest ih =>
    rw [insertCount]
    split
    · cases passes : test name <;> simp [passes, Nat.add_comm]
    · split
      · rename_i here
        subst here
        cases passes : test entry.1 <;> simp [passes]
        omega
      · cases own : test entry.1 <;> simp [own, ih, Nat.add_assoc]

/-- Nothing that is added is lost, whatever is asked of the names. -/
theorem sum_filter_ofPairs (test : String → Bool) (pairs : List (String × Nat)) :
    (((ofPairs pairs).entries.filter (fun entry => test entry.1)).map (·.2)).sum =
      ((pairs.filter (fun pair => test pair.1)).map (·.2)).sum := by
  suffices general : ∀ counts : Tally,
      (((pairs.foldl (fun counts pair => counts.add pair.1 pair.2) counts).entries.filter
          (fun entry => test entry.1)).map (·.2)).sum =
        ((counts.entries.filter (fun entry => test entry.1)).map (·.2)).sum +
          ((pairs.filter (fun pair => test pair.1)).map (·.2)).sum by
    rw [ofPairs, general empty]
    exact Nat.zero_add _
  induction pairs with
  | nil => simp
  | cons pair rest ih =>
    intro counts
    rw [List.foldl_cons, ih, add, sum_filter_insertCount]
    cases passes : test pair.1 <;> simp [passes, Nat.add_assoc]

/-- Nothing that is added is lost. -/
theorem sum_ofPairs (pairs : List (String × Nat)) :
    ((ofPairs pairs).entries.map (·.2)).sum = (pairs.map (·.2)).sum := by
  simpa using sum_filter_ofPairs (fun _ => true) pairs

/-- A name after all others is added at the end. -/
theorem insertCount_of_last {name : String} {count : Nat} {entries : List (String × Nat)}
    (last : ∀ entry ∈ entries, entry.1 < name) :
    insertCount name count entries = entries ++ [(name, count)] := by
  induction entries with
  | nil => rfl
  | cons entry rest ih =>
    obtain ⟨before, last⟩ := List.forall_mem_cons.1 last
    rw [insertCount, if_neg (String.lt_asymm before),
      if_neg (fun same => String.lt_irrefl _ (same ▸ before)), ih last, List.cons_append]

theorem ofPairs_entries (counts : Tally) : ofPairs counts.entries = counts := by
  suffices general : ∀ (entries : List (String × Nat)) (counts : Tally),
      (counts.entries ++ entries).Pairwise (fun first second => first.1 < second.1) →
      (entries.foldl (fun counts pair => counts.add pair.1 pair.2) counts).entries =
        counts.entries ++ entries by
    have same := general counts.entries empty counts.sorted
    obtain ⟨entries, sorted⟩ := counts
    exact (mk.injEq ..).symm ▸ same
  intro entries
  induction entries with
  | nil => exact fun counts _ => (List.append_nil counts.entries).symm
  | cons pair rest ih =>
    intro counts sorted
    have last : ∀ entry ∈ counts.entries, entry.1 < pair.1 := fun entry member =>
      (List.pairwise_append.1 sorted).2.2 entry member pair (List.mem_cons_self ..)
    have added : (counts.add pair.1 pair.2).entries = counts.entries ++ [pair] :=
      insertCount_of_last last
    rw [List.foldl_cons, ih _ (by rw [added]; simpa using sorted), added]
    simp

theorem mem_entries {counts : Tally} {entry : String × Nat} :
    entry ∈ counts.entries ↔ entry.1 ∈ counts.names ∧ counts.count entry.1 = entry.2 := by
  obtain ⟨entries, sorted⟩ := counts
  change entry ∈ entries ↔ entry.1 ∈ entries.map (·.1) ∧ countIn entries entry.1 = entry.2
  induction entries with
  | nil => simp
  | cons head rest ih =>
    obtain ⟨later, sorted⟩ := List.pairwise_cons.1 sorted
    rw [List.mem_cons, ih sorted, List.map_cons, List.mem_cons, countIn_cons]
    by_cases here : head.1 = entry.1
    · have absent : entry.1 ∉ rest.map (·.1) := by
        rw [← here]
        intro member
        obtain ⟨further, isFurther, there⟩ := List.mem_map.1 member
        exact String.lt_irrefl _ (there ▸ later further isFurther)
      simp only [absent, false_and, or_false, here, true_and, if_true]
      constructor
      · rintro rfl
        rfl
      · intro same
        exact Prod.ext here.symm same.symm
    · have different : entry ≠ head := fun same => here (by rw [same])
      simp [here, different, Ne.symm here]

/-- What is added under a name is no more than its count. -/
theorem exists_entry_of_mem {pairs : List (String × Nat)} {pair : String × Nat}
    (member : pair ∈ pairs) : ∃ entry ∈ (ofPairs pairs).entries, pair.2 ≤ entry.2 := by
  have named : pair.1 ∈ (ofPairs pairs).names :=
    mem_names_ofPairs.2 (List.mem_map_of_mem member)
  refine ⟨(pair.1, (ofPairs pairs).count pair.1), mem_entries.2 ⟨named, rfl⟩, ?_⟩
  rw [count_ofPairs]
  exact List.le_sum_of_mem (List.mem_map_of_mem
    (List.mem_filter.2 ⟨member, beq_self_eq_true pair.1⟩))

theorem sum_filter_entries (counts : Tally) (name : String) :
    ((counts.entries.filter (fun entry => entry.1 == name)).map (·.2)).sum =
      counts.count name := by
  obtain ⟨entries, sorted⟩ := counts
  change _ = countIn entries name
  induction entries with
  | nil => rfl
  | cons head rest ih =>
    obtain ⟨later, sorted⟩ := List.pairwise_cons.1 sorted
    rw [countIn_cons, List.filter_cons]
    by_cases here : head.1 = name
    · have nothing : rest.filter (fun entry => entry.1 == name) = [] := by
        rw [List.filter_eq_nil_iff]
        intro entry member same
        exact String.lt_irrefl _ ((here.trans (beq_iff_eq.1 same).symm) ▸ later entry member)
      simp [here, nothing]
    · simpa [here] using ih sorted

theorem ofNames_eq_ofPairs (names : List String) :
    ofNames names = ofPairs (names.map (fun name => (name, 1))) := by
  rw [ofNames, ofPairs, List.foldl_map]

theorem count_ofNames (names : List String) (name : String) :
    (ofNames names).count name = names.count name := by
  rw [ofNames_eq_ofPairs, count_ofPairs]
  induction names with
  | nil => rfl
  | cons head rest ih =>
    by_cases here : head = name
    · subst here
      simp_all [Nat.add_comm]
    · simp_all

theorem sum_ofNames (names : List String) :
    ((ofNames names).entries.map (·.2)).sum = names.length := by
  rw [ofNames_eq_ofPairs, sum_ofPairs]
  induction names with
  | nil => rfl
  | cons head rest ih =>
    simp only [List.map_cons, List.sum_cons, ih, List.length_cons]
    omega

section Words

variable {pairs : List (String × Nat)} {counts : Tally}

/-- Add to the count of a name, unless the sum is too large for a word. -/
def add? (counts : Tally) (name : String) (count : Nat) : Option Tally :=
  (plus? (counts.count name) count).map (fun _ => counts.add name count)

/-- The tally of a list of names with counts, unless a count becomes too large for a word. -/
def ofPairs? (pairs : List (String × Nat)) : Option Tally :=
  pairs.foldlM (fun counts pair => counts.add? pair.1 pair.2) empty

theorem add?_eq_some_iff {name : String} {count : Nat} {more : Tally} :
    counts.add? name count = some more ↔
      counts.count name + count < wordSize ∧ more = counts.add name count :=
  map_eq_some_iff_of_iff (fun _ => plus?_eq_some_iff) _

/-- No addition is too large for a word if no count is in the end. -/
theorem ofPairs?_eq_some_iff :
    ofPairs? pairs = some counts ↔
      (∀ name, (ofPairs pairs).count name < wordSize) ∧ counts = ofPairs pairs := by
  have none (name : String) : empty.count name < wordSize := by
    change 0 < wordSize
    decide
  refine foldlM_eq_some_iff (fun counts : Tally => ∀ name, counts.count name < wordSize)
    (fun counts (pair : String × Nat) => counts.add pair.1 pair.2) ?_ ?_ none
  · intro counts pair fits name
    have more := fits name
    rw [count_add] at more
    exact Nat.lt_of_le_of_lt (Nat.le_add_right ..) more
  · intro counts pair more fits
    rw [add?_eq_some_iff]
    refine and_congr_left fun _ => ⟨fun own name => ?_, fun all => ?_⟩
    · rw [count_add]
      split
      · rename_i here
        exact here ▸ own
      · exact fits name
    · have own := all pair.1
      rwa [count_add, if_pos rfl] at own

theorem forall_count_lt_iff :
    (∀ name, counts.count name < wordSize) ↔ ∀ entry ∈ counts.entries, entry.2 < wordSize := by
  constructor
  · intro fits entry member
    exact (mem_entries.1 member).2 ▸ fits entry.1
  · intro fits name
    by_cases held : name ∈ counts.names
    · exact fits (name, counts.count name) (mem_entries.2 ⟨held, rfl⟩)
    · have none : counts.count name = 0 := countIn_eq_zero held
      rw [none]
      decide

end Words

end Tally

end CSurvey
