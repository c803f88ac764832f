import CSurvey.Sum
import Mathlib.Algebra.BigOperators.Group.List.Basic
import Mathlib.Algebra.Order.BigOperators.Group.List
import Mathlib.Algebra.Order.Group.Nat
import Mathlib.Data.List.Nodup

/-!
# Sums over parts

A sum over the parts of a list is the sum over the list, whether the parts stand
one after the other, are told apart by a test, or are shared out among keys.  If all
counts fit into a word together, so does every sum on the way.
-/

namespace CSurvey

variable {α β : Type}

theorem sum_map_flatMap (items : List α) (part : α → List β) (weight : β → Nat) :
    ((items.flatMap part).map weight).sum =
      (items.map (fun item => ((part item).map weight).sum)).sum := by
  rw [List.map_flatMap, List.flatMap, List.sum_flatten, List.map_map]
  rfl

/-- What passes a test and what does not add up to everything. -/
theorem sum_filter (test : α → Bool) (weight : α → Nat) (items : List α) :
    ((items.filter test).map weight).sum + ((items.filter (fun item => !test item)).map
      weight).sum = (items.map weight).sum := by
  simpa using List.sum_map_filter_add_sum_map_filter_not (fun item => test item = true) weight items

/-- What passes a stronger test adds up to at most what passes a weaker one. -/
theorem sum_filter_mono {test other : α → Bool}
    (weaker : ∀ item, test item = true → other item = true) (weight : α → Nat) (items : List α) :
    ((items.filter test).map weight).sum ≤ ((items.filter other).map weight).sum :=
  ((List.monotone_filter_right items weaker).map weight).sum_le_sum (fun _ _ => Nat.zero_le _)

/-- Two tests part a sum into four. -/
theorem sum_quarters (first second : α → Bool) (weight : α → Nat) (items : List α) :
    ((items.filter (fun item => first item && second item)).map weight).sum +
      (((items.filter (fun item => !first item && second item)).map weight).sum +
        ((items.filter (fun item => first item && !second item)).map weight).sum +
        ((items.filter (fun item => !first item && !second item)).map weight).sum) =
      (items.map weight).sum := by
  have halves := sum_filter first weight items
  have passed := sum_filter second weight (items.filter first)
  have others := sum_filter second weight (items.filter (fun item => !first item))
  simp only [List.filter_filter, Bool.and_comm (second _), Bool.and_comm (!second _)]
    at passed others
  omega

section Tests

theorem countP_or {one other : β → Bool} {items : List β}
    (apart : ∀ item ∈ items, ¬ (one item = true ∧ other item = true)) :
    items.countP (fun item => one item || other item) =
      items.countP one + items.countP other := by
  induction items with
  | nil => rfl
  | cons item rest ih =>
    obtain ⟨here, apart⟩ := List.forall_mem_cons.1 apart
    rw [List.countP_cons, List.countP_cons, List.countP_cons, ih apart]
    cases first : one item <;> cases second : other item
    · simp
    · simp
      omega
    · simp
      omega
    · exact absurd ⟨first, second⟩ here

/-- What passes one of some tests is counted by them together, if nothing passes two. -/
theorem sum_countP {test : α → β → Bool} {tests : List α} {items : List β}
    (apart : ∀ item ∈ items,
      tests.Pairwise (fun one other => ¬ (test one item = true ∧ test other item = true))) :
    (tests.map (fun own => items.countP (test own))).sum =
      items.countP (fun item => tests.any (fun own => test own item)) := by
  induction tests with
  | nil => simp
  | cons first rest ih =>
    rw [List.map_cons, List.sum_cons,
      ih (fun item member => (List.pairwise_cons.1 (apart item member)).2)]
    simp only [List.any_cons]
    rw [countP_or]
    rintro item member ⟨here, later⟩
    obtain ⟨own, inRest, passes⟩ := List.any_eq_true.1 later
    exact (List.pairwise_cons.1 (apart item member)).1 own inRest ⟨here, passes⟩

end Tests

section Fibers

variable [DecidableEq β]

theorem sum_single {keys : List β} (distinct : keys.Nodup) {key : β} (member : key ∈ keys)
    (weight : Nat) : (keys.map (fun other => if key = other then weight else 0)).sum = weight := by
  rw [List.sum_map_eq_nsmul_single key _ (fun other different _ => if_neg different.symm),
    List.count_eq_one_of_mem distinct member, if_pos rfl, one_nsmul]

/-- A sum is shared out among the keys of what is summed up. -/
theorem sum_fibers {keys : List β} (distinct : keys.Nodup) (key : α → β) (weight : α → Nat)
    {items : List α} (covered : ∀ item ∈ items, key item ∈ keys) :
    (keys.map (fun own =>
      ((items.filter (fun item => key item == own)).map weight).sum)).sum =
        (items.map weight).sum := by
  induction items with
  | nil => exact List.sum_map_zero
  | cons item rest ih =>
    obtain ⟨here, covered⟩ := List.forall_mem_cons.1 covered
    have step : ∀ own, (((item :: rest).filter (fun item => key item == own)).map weight).sum =
        (if key item = own then weight item else 0) +
          ((rest.filter (fun item => key item == own)).map weight).sum := by
      intro own
      by_cases same : key item = own <;> simp [same]
    simp only [step]
    rw [List.sum_map_add, sum_single distinct here, ih covered, List.map_cons, List.sum_cons]

end Fibers

section Words

variable {first second sum : Nat} {counts : List Nat}

theorem plus?_eq_some_iff :
    plus? first second = some sum ↔ first + second < wordSize ∧ sum = first + second := by
  unfold plus?
  split <;> simp [*, eq_comm]

/-- What is made of a checked value is there exactly if the value is. -/
theorem map_eq_some_iff_of_iff {checked : Option α} {Fits : Prop} {value : α}
    (holds : ∀ found, checked = some found ↔ Fits ∧ found = value) (f : α → β) {result : β} :
    checked.map f = some result ↔ Fits ∧ result = f value := by
  rw [Option.map_eq_some_iff]
  simp only [holds]
  constructor
  · rintro ⟨_, ⟨fits, rfl⟩, rfl⟩
    exact ⟨fits, rfl⟩
  · rintro ⟨fits, rfl⟩
    exact ⟨_, ⟨fits, rfl⟩, rfl⟩

/-- Steps that are checked one by one succeed exactly if what all of them lead to fits, when
nothing fits after a step that did not fit before. -/
theorem foldlM_eq_some_iff {σ : Type} (Fits : σ → Prop) (step : σ → α → σ)
    {step? : σ → α → Option σ}
    (before : ∀ state item, Fits (step state item) → Fits state)
    (checked : ∀ state item next, Fits state →
      (step? state item = some next ↔ Fits (step state item) ∧ next = step state item))
    {items : List α} {start last : σ} (fits : Fits start) :
    items.foldlM step? start = some last ↔
      Fits (items.foldl step start) ∧ last = items.foldl step start := by
  have first (items : List α) : ∀ start, Fits (items.foldl step start) → Fits start := by
    induction items with
    | nil => exact fun start fits => fits
    | cons item rest ih => exact fun start fits => before start item (ih _ fits)
  induction items generalizing start with
  | nil => simp [fits, eq_comm]
  | cons item rest ih =>
    rw [List.foldlM_cons, Option.bind_eq_bind, Option.bind_eq_some_iff, List.foldl_cons]
    simp only [checked _ _ _ fits]
    constructor
    · rintro ⟨_, ⟨next, rfl⟩, later⟩
      exact (ih next).1 later
    · rintro ⟨whole, rfl⟩
      have next := first rest _ whole
      exact ⟨_, ⟨next, rfl⟩, (ih next).2 ⟨whole, rfl⟩⟩

/-- No addition fails if the last one does not. -/
theorem sumWords?_eq_some_iff :
    sumWords? counts = some sum ↔ counts.sum < wordSize ∧ sum = counts.sum := by
  rw [List.sum_eq_foldl]
  refine foldlM_eq_some_iff (· < wordSize) (· + ·) (fun state count fits => ?_)
    (fun state count next fits => plus?_eq_some_iff) (by decide)
  exact Nat.lt_of_le_of_lt (Nat.le_add_right state count) fits

end Words

end CSurvey
