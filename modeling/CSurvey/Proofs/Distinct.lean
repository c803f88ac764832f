import Mathlib.Data.List.Nodup

/-!
# Lists without repetitions

An item of a list is found by its key if all keys differ, and a list from which
repetitions were removed has its items in the order in which they came first.
-/

namespace CSurvey

theorem find?_of_mem {α β : Type} [DecidableEq β] {key : α → β} {items : List α}
    (distinct : (items.map key).Nodup) {item : α} (member : item ∈ items) :
    items.find? (fun other => key other == key item) = some item := by
  induction items with
  | nil => cases member
  | cons head rest ih =>
    obtain ⟨apart, distinct⟩ := List.nodup_cons.1 (List.map_cons ▸ distinct)
    rcases List.mem_cons.1 member with rfl | later
    · exact List.find?_cons_of_pos (beq_self_eq_true _)
    · have other : key head ≠ key item := fun same => apart (same ▸ List.mem_map_of_mem later)
      rw [List.find?_cons_of_neg (by simpa using other), ih distinct later]

/-- What remains of some items stands in the order in which it came first among all of them. -/
theorem idxOf_lt_idxOf_of_filter {α : Type} [BEq α] [LawfulBEq α] (keeps : α → Bool)
    {items : List α} {first second : α} (firstKept : keeps first = true)
    (secondKept : keeps second = true)
    (before : (items.filter keeps).idxOf first < (items.filter keeps).idxOf second) :
    items.idxOf first < items.idxOf second := by
  induction items with
  | nil => simp at before
  | cons head rest ih =>
    by_cases firstHere : head = first
    · subst firstHere
      by_cases secondHere : head = second
      · simp [secondHere] at before
      · simp [secondHere]
    · by_cases secondHere : head = second
      · subst secondHere
        simp [secondKept] at before
      · cases kept : keeps head <;>
          simp [kept, firstHere, secondHere] at before ⊢ <;>
          exact ih before

theorem pairwise_idxOf_eraseDups {α : Type} [BEq α] [LawfulBEq α] (items : List α) :
    items.eraseDups.Pairwise (fun first second => items.idxOf first < items.idxOf second) := by
  match items with
  | [] => exact .nil
  | head :: rest =>
    rw [List.eraseDups_cons, List.pairwise_cons]
    have different : ∀ item ∈ (rest.filter (fun item => !item == head)).eraseDups,
        (!item == head) = true := fun item member =>
      (List.mem_filter.1 (List.mem_eraseDups.1 member)).2
    constructor
    · intro item later
      have other := different item later
      simp only [Bool.not_eq_true', beq_eq_false_iff_ne] at other
      simp [Ne.symm other]
    · refine (pairwise_idxOf_eraseDups _).imp_of_mem ?_
      intro first second firstLater secondLater before
      have firstOther := different first firstLater
      have secondOther := different second secondLater
      have order := idxOf_lt_idxOf_of_filter (fun item => !item == head) firstOther secondOther
        before
      simp only [Bool.not_eq_true', beq_eq_false_iff_ne] at firstOther secondOther
      simpa [Ne.symm firstOther, Ne.symm secondOther] using order
termination_by items.length
decreasing_by exact Nat.lt_succ_of_le (List.length_filter_le _ _)

theorem nodup_eraseDups {α : Type} [BEq α] [LawfulBEq α] (items : List α) :
    items.eraseDups.Nodup := by
  refine (pairwise_idxOf_eraseDups items).imp ?_
  rintro first _ before rfl
  exact Nat.lt_irrefl _ before

end CSurvey
