import CSurvey.Sorted
import Mathlib.Data.List.Pairwise
import Mathlib.Data.List.Sort

/-!
# Sorted lists

Sorting is the insertion sort of the library.  It leaves a sorted list as it is, and
any shuffling of a list whose elements the order tells apart is sorted back to it.
A test that fails for all elements after one for which it fails cuts a list in two,
and halving finds the cut.
-/

namespace CSurvey.Sorted

variable {α : Type} {items : List α}

section Sorting

variable {precedes : α → α → Bool}

theorem insert_eq_orderedInsert (item : α) (items : List α) :
    insert precedes item items = items.orderedInsert (precedes · · = true) item := by
  induction items with
  | nil => rfl
  | cons head rest ih => rw [insert, List.orderedInsert, ih]

/-- Sorting is the insertion sort of the library. -/
theorem sort_eq_insertionSort (precedes : α → α → Bool) (items : List α) :
    sort precedes items = items.insertionSort (precedes · · = true) := by
  induction items with
  | nil => rfl
  | cons item rest ih => rw [sort, ih, insert_eq_orderedInsert, List.insertionSort_cons]

theorem sort_perm (precedes : α → α → Bool) (items : List α) :
    (sort precedes items).Perm items :=
  sort_eq_insertionSort precedes items ▸ List.perm_insertionSort ..

theorem sort_of_pairwise (sorted : items.Pairwise (precedes · ·)) :
    sort precedes items = items :=
  (sort_eq_insertionSort ..).trans sorted.insertionSort_eq

theorem sort_map {f : α → α} (keeps : ∀ a b, precedes (f a) (f b) = precedes a b)
    (items : List α) : sort precedes (items.map f) = (sort precedes items).map f := by
  rw [sort_eq_insertionSort, sort_eq_insertionSort]
  exact (List.map_insertionSort _ _ _ _ (fun a _ b _ => by rw [keeps])).symm

variable (total : ∀ a b, precedes a b = true ∨ precedes b a = true)
  (trans : ∀ a b c, precedes a b = true → precedes b c = true → precedes a c = true)
include total trans

theorem sort_pairwise (items : List α) : (sort precedes items).Pairwise (precedes · ·) := by
  have : Std.Total (precedes · · = true) := ⟨total⟩
  have : IsTrans α (precedes · · = true) := ⟨trans⟩
  rw [sort_eq_insertionSort]
  exact List.pairwise_insertionSort _ _

theorem sort_sort (items : List α) :
    sort precedes (sort precedes items) = sort precedes items :=
  sort_of_pairwise (sort_pairwise total trans items)

/-- A list none of whose elements may come before an earlier one is what its elements are sorted
to, in whatever order they are given. -/
theorem sort_of_perm {sorted : List α} (same : items.Perm sorted)
    (strict : sorted.Pairwise (fun first second => precedes second first = false)) :
    sort precedes items = sorted := by
  have inOrder : sorted.Pairwise (precedes · ·) := strict.imp (fun {first second} later =>
    (total first second).resolve_right (Bool.eq_false_iff.1 later))
  have apart : ∀ ⦃first⦄, first ∈ sorted → ∀ ⦃second⦄, second ∈ sorted →
      precedes first second = true → precedes second first = true → first = second := by
    apply List.Pairwise.forall_of_forall_of_flip
      (R := fun first second => precedes first second = true → precedes second first = true →
        first = second) (fun _ _ _ _ => rfl)
    · exact strict.imp (fun later _ before => absurd before (Bool.eq_false_iff.1 later))
    · exact strict.imp (fun later before _ => absurd before (Bool.eq_false_iff.1 later))
  refine List.Perm.eq_of_pairwise ?_ (sort_pairwise total trans items) inOrder
    ((sort_perm precedes items).trans same)
  intro first second inItems inSorted
  exact apart (same.subset ((sort_perm precedes items).subset inItems)) inSorted

end Sorting

section Partition

variable {test : α → Bool}
  (cut : items.Pairwise (fun first second => test second = true → test first = true))
include cut

theorem filter_append_filter_not :
    items.filter test ++ items.filter (fun item => !test item) = items := by
  induction items with
  | nil => rfl
  | cons item rest ih =>
    obtain ⟨first, cut⟩ := List.pairwise_cons.1 cut
    cases passes : test item with
    | true => simp [passes, ih cut]
    | false =>
      have fails : ∀ other ∈ rest, test other = false := fun other later =>
        Bool.eq_false_iff.2 (fun passed => Bool.false_ne_true (passes ▸ first other later passed))
      have nothing : rest.filter test = [] :=
        List.filter_eq_nil_iff.2 (fun other later => Bool.eq_false_iff.1 (fails other later))
      have tail := ih cut
      rw [nothing, List.nil_append] at tail
      simp [passes, nothing, tail]

theorem partitionPoint_eq : partitionPoint test items = (items.filter test).length := by
  have passes : ∀ item ∈ items.filter test, test item = true := fun item member =>
    (List.mem_filter.1 member).2
  have fails : ∀ item ∈ items.filter (fun item => !test item), test item = false := by
    simp only [List.mem_filter, Bool.not_eq_true', and_imp]
    exact fun item _ failed => failed
  have found := partitionPoint_append passes fails
  rwa [filter_append_filter_not cut] at found

theorem take_partitionPoint : items.take (partitionPoint test items) = items.filter test :=
  calc items.take (partitionPoint test items)
    _ = (items.filter test ++ items.filter (fun item => !test item)).take
          (items.filter test).length := by
      rw [partitionPoint_eq cut, filter_append_filter_not cut]
    _ = items.filter test := List.take_left

theorem drop_partitionPoint :
    items.drop (partitionPoint test items) = items.filter (fun item => !test item) :=
  calc items.drop (partitionPoint test items)
    _ = (items.filter test ++ items.filter (fun item => !test item)).drop
          (items.filter test).length := by
      rw [partitionPoint_eq cut, filter_append_filter_not cut]
    _ = items.filter (fun item => !test item) := List.drop_left

theorem dropWhile_eq_drop : items.dropWhile test = items.drop (partitionPoint test items) := by
  rw [drop_partitionPoint cut]
  induction items with
  | nil => rfl
  | cons item rest ih =>
    obtain ⟨first, cut⟩ := List.pairwise_cons.1 cut
    cases passes : test item with
    | true => simp [passes, ih cut]
    | false =>
      have fails : ∀ other ∈ item :: rest, (!test other) = true := by
        refine List.forall_mem_cons.2 ⟨by rw [passes]; rfl, fun other later => ?_⟩
        rw [Bool.not_eq_true', Bool.eq_false_iff]
        exact fun passed => Bool.false_ne_true (passes ▸ first other later passed)
      rw [List.dropWhile_cons_of_neg (Bool.eq_false_iff.1 passes), List.filter_eq_self.2 fails]

/-- Halving finds the first element that fails the test. -/
theorem getElem?_partitionPoint :
    items[partitionPoint test items]? = items.find? (fun item => !test item) := by
  rw [← List.head?_drop, drop_partitionPoint cut, List.head?_filter]

end Partition

/-- What lies between two cuts. -/
theorem drop_take_partitionPoint {below within : α → Bool}
    (cutBelow : items.Pairwise (fun first second => below second = true → below first = true))
    (cutWithin : items.Pairwise (fun first second => within second = true → within first = true))
    (weaker : ∀ item, below item = true → within item = true) :
    (items.take (partitionPoint within items)).drop (partitionPoint below items) =
      items.filter (fun item => within item && !below item) := by
  have lower : partitionPoint below items = partitionPoint below (items.filter within) := by
    rw [partitionPoint_eq cutBelow, partitionPoint_eq (cutBelow.filter _), List.filter_filter]
    congr 1
    refine List.filter_congr (fun item _ => ?_)
    rw [Bool.eq_iff_iff, Bool.and_eq_true]
    exact (and_iff_left_of_imp (weaker item)).symm
  rw [take_partitionPoint cutWithin, lower, drop_partitionPoint (cutBelow.filter _),
    List.filter_filter]
  simp only [Bool.and_comm]

end CSurvey.Sorted
