/-!
# Sorting and searching

A stable sort by a given test: elements of which neither has to come first keep
their order.  It inserts one element after the other, so that sorted lists can be
computed inside proofs, which sorting by merging does not allow.  In a sorted list
the place where a test begins to fail is found by halving.
-/

namespace CSurvey.Sorted

variable {α : Type}

/-- Put an element in front of the first one that it may precede. -/
def insert (precedes : α → α → Bool) (item : α) : List α → List α
  | [] => [item]
  | head :: rest =>
    if precedes item head then item :: head :: rest else head :: insert precedes item rest

/-- Sort by the test `precedes`, which holds of equal elements. -/
def sort (precedes : α → α → Bool) : List α → List α
  | [] => []
  | item :: rest => insert precedes item (sort precedes rest)

/-- The place in a range from which on a test fails, if it holds at all places before.  The middle
of the range tells in which half that place is. -/
def bisect (test : Nat → Bool) (low high : Nat) : Nat :=
  if low < high then
    let middle := (low + high) / 2
    if test middle then bisect test (middle + 1) high else bisect test low middle
  else low
termination_by high - low

/-- The number of elements that pass a test, if all of them come before all others. -/
def partitionPoint (test : α → Bool) (items : List α) : Nat :=
  bisect (fun index => items[index]?.any test) 0 items.length

theorem bisect_eq {test : Nat → Bool} {low high place : Nat} (lower : low ≤ place)
    (upper : place ≤ high) (passes : ∀ index, index < place → test index = true)
    (fails : ∀ index, place ≤ index → index < high → test index = false) :
    bisect test low high = place := by
  fun_induction bisect test low high with
  | case1 low high less middle passed ih =>
    have after : middle < place := by
      refine Nat.lt_of_not_le (fun before => ?_)
      rw [fails middle before (by omega)] at passed
      cases passed
    exact ih after upper fails
  | case2 low high less middle failed ih =>
    have before : place ≤ middle :=
      Nat.le_of_not_lt (fun after => failed (passes middle after))
    exact ih lower before (fun index later earlier => fails index later (by omega))
  | case3 low high more => omega

theorem partitionPoint_append {test : α → Bool} {front back : List α}
    (passes : ∀ item ∈ front, test item = true) (fails : ∀ item ∈ back, test item = false) :
    partitionPoint test (front ++ back) = front.length := by
  apply bisect_eq (Nat.zero_le _) (by simp)
  · intro index early
    rw [List.getElem?_append_left early, List.getElem?_eq_getElem early]
    exact passes _ (List.getElem_mem early)
  · intro index late inside
    have bound : index - front.length < back.length := by
      rw [List.length_append] at inside
      omega
    rw [List.getElem?_append_right late, List.getElem?_eq_getElem bound]
    exact fails _ (List.getElem_mem bound)

theorem partitionPoint_map {β : Type} (test : β → Bool) (f : α → β) (items : List α) :
    partitionPoint test (items.map f) = partitionPoint (test ∘ f) items := by
  simp only [partitionPoint, List.length_map, List.getElem?_map, Option.any_map]
  rfl

end CSurvey.Sorted
