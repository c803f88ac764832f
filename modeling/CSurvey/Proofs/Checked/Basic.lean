import CSurvey.Proofs.Text.Cut

/-!
# Checked operations

A program that reads lists by position, cuts texts at byte offsets and counts
down can slip: a position may lie outside a list, a cut inside a character, a
difference below zero.  Here each such operation says so instead of giving a
result, and a program made of them gives a result only if it never slips.
-/

namespace CSurvey

/-- How a program slips: a position outside a list, a range that is turned around or not inside
a list, a cut that is turned around or not between characters, a difference below zero, and a
loop that does not end in the steps it was given. -/
inductive Slip where
  | position
  | range
  | boundary
  | difference
  | steps
deriving DecidableEq, Repr

/-- What a program of checked operations gives. -/
abbrev Checked (α : Type) :=
  Except Slip α

namespace Text

/-- Whether a character begins at an offset or the text ends there. -/
def isBoundary : List Char → Nat → Bool
  | [], offset => offset == 0
  | c :: rest, offset =>
    offset == 0 || (c.utf8Size ≤ offset && isBoundary rest (offset - c.utf8Size))

theorem isBoundary_iff {cs : List Char} {offset : Nat} :
    isBoundary cs offset = true ↔ IsBoundary cs offset := by
  induction cs generalizing offset with
  | nil =>
    simp only [isBoundary, beq_iff_eq]
    constructor
    · rintro rfl
      exact ⟨[], [], rfl, rfl⟩
    · rintro ⟨front, back, eq, rfl⟩
      rw [(List.append_eq_nil_iff.1 eq.symm).1, byteLength_nil]
  | cons c rest ih =>
    simp only [isBoundary, Bool.or_eq_true, beq_iff_eq, Bool.and_eq_true, decide_eq_true_eq, ih]
    constructor
    · rintro (rfl | ⟨le, front, back, rfl, length⟩)
      · exact ⟨[], c :: rest, rfl, rfl⟩
      · exact ⟨c :: front, back, rfl, by rw [byteLength_cons]; omega⟩
    · rintro ⟨front, back, eq, length⟩
      cases front with
      | nil => exact Or.inl length.symm
      | cons d front =>
        obtain ⟨rfl, rfl⟩ := List.cons.inj eq
        rw [byteLength_cons] at length
        exact Or.inr ⟨by omega, front, back, rfl, by omega⟩

instance (cs : List Char) (offset : Nat) : Decidable (IsBoundary cs offset) :=
  decidable_of_iff _ isBoundary_iff

end Text

namespace Checked

variable {α β : Type}

/-- What stands at a position of a list. -/
def item (items : List α) (position : Nat) : Checked α :=
  match items[position]? with
  | some found => .ok found
  | none => .error .position

/-- What stands right before a position of a list, if the position is not the first. -/
def behind (items : List α) : Nat → Checked (Option α)
  | 0 => .ok none
  | before + 1 => some <$> item items before

def part (items : List α) (start stop : Nat) : Checked (List α) :=
  if start ≤ stop ∧ stop ≤ items.length then .ok ((items.take stop).drop start)
  else .error .range

def update (items : List α) (position : Nat) (value : α) : Checked (List α) :=
  if position < items.length then .ok (items.set position value) else .error .position

/-- The difference of two numbers. -/
def minus (first second : Nat) : Checked Nat :=
  if second ≤ first then .ok (first - second) else .error .difference

/-- The characters of a text from byte `start` up to byte `stop`. -/
def cut (cs : List Char) (start stop : Nat) : Checked (List Char) :=
  if start ≤ stop ∧ Text.IsBoundary cs start ∧ Text.IsBoundary cs stop then
    .ok (Text.slice cs start stop)
  else .error .boundary

/-- The first position from `position` on at which a test fails, or the end of the list. -/
def pass (items : List α) (test : α → Bool) : (steps position : Nat) → Checked Nat
  | 0, position => if position < items.length then .error .steps else .ok position
  | steps + 1, position =>
    if position < items.length then do
      let here ← item items position
      if test here then pass items test steps (position + 1) else return position
    else .ok position

/-- What `find` finds in the members of a list, in order. -/
def collect (find : α → Checked (Option β)) : List α → Checked (List β)
  | [] => .ok []
  | first :: rest => do
    let found ← find first
    let more ← collect find rest
    return found.toList ++ more

/-- What `f` makes of each member of a list. -/
def each (f : α → Checked β) (items : List α) : Checked (List β) :=
  collect (fun member => some <$> f member) items

def select (test : α → Checked Bool) (items : List α) : Checked (List α) :=
  collect (fun member => (if · then some member else none) <$> test member) items

@[simp]
theorem ok_bind (value : α) (next : α → Checked β) : (Except.ok value >>= next) = next value :=
  rfl

@[simp]
theorem ok_map (value : α) (f : α → β) : (f <$> (Except.ok value : Checked α)) = .ok (f value) :=
  rfl

@[simp]
theorem pure_eq_ok (value : α) : (pure value : Checked α) = .ok value :=
  rfl

theorem item_eq_ok {items : List α} {position : Nat} {found : α}
    (here : items[position]? = some found) : item items position = .ok found := by
  rw [item, here]

section Split

variable {items front back : List α} {here : α} {position : Nat}
  (whole : items = front ++ here :: back) (length : front.length = position)
include whole length

theorem getElem?_split : items[position]? = some here := by
  simp [whole, ← length]

theorem item_split : item items position = .ok here :=
  item_eq_ok (getElem?_split whole length)

theorem getElem?_after_split : items[position + 1]? = back.head? := by
  rw [whole, ← length, List.getElem?_append_right (Nat.le_add_right ..), Nat.add_sub_cancel_left,
    List.getElem?_cons_succ, List.head?_eq_getElem?]

theorem drop_split : items.drop (position + 1) = back := by
  simp [whole, ← length, List.drop_append]

end Split

theorem behind_append (front back : List α) :
    behind (front ++ back) front.length = .ok front.getLast? := by
  rcases List.eq_nil_or_concat front with rfl | ⟨before, last, rfl⟩
  · rfl
  · rw [List.concat_eq_append, List.append_assoc, List.length_append, List.length_singleton,
      behind, item_split (by rfl) rfl]
    simp

theorem part_eq_ok {items : List α} {start stop : Nat} (ordered : start ≤ stop)
    (inside : stop ≤ items.length) : part items start stop = .ok ((items.take stop).drop start) :=
  if_pos ⟨ordered, inside⟩

theorem part_middle (front middle back : List α) :
    part (front ++ (middle ++ back)) front.length (front.length + middle.length) = .ok middle := by
  rw [part_eq_ok (Nat.le_add_right ..) (by simp)]
  simp [List.take_append]

theorem mem_of_part {items part : List α} {start stop : Nat} {member : α}
    (found : Checked.part items start stop = .ok part) (inside : member ∈ part) :
    member ∈ items := by
  rw [Checked.part] at found
  split at found
  · rw [← Except.ok.inj found] at inside
    exact List.mem_of_mem_take (List.mem_of_mem_drop inside)
  · cases found

theorem update_eq_ok {items : List α} {position : Nat} (inside : position < items.length)
    (value : α) : update items position value = .ok (items.set position value) :=
  if_pos inside

theorem minus_eq_ok {first second : Nat} (le : second ≤ first) :
    minus first second = .ok (first - second) :=
  if_pos le

theorem cut_eq_ok {cs : List Char} {start stop : Nat} (ordered : start ≤ stop)
    (begins : Text.IsBoundary cs start) (ends : Text.IsBoundary cs stop) :
    cut cs start stop = .ok (Text.slice cs start stop) :=
  if_pos ⟨ordered, begins, ends⟩

theorem cut_middle (front middle back : List Char) :
    cut (front ++ (middle ++ back)) (Text.byteLength front)
      (Text.byteLength front + Text.byteLength middle) = .ok middle := by
  rw [cut_eq_ok (Nat.le_add_right ..) ⟨front, middle ++ back, rfl, rfl⟩
    ⟨front ++ middle, back, by simp, by simp⟩, Text.slice_middle]

/-- The inside of a character of two bytes is no place to cut. -/
example : cut ['a', 'é'] 1 2 = .error .boundary :=
  rfl

theorem pass_eq_ok {items front rest : List α} (test : α → Bool) (whole : items = front ++ rest)
    {steps : Nat} (enough : rest.length ≤ steps) :
    pass items test steps front.length = .ok (front.length + (rest.takeWhile test).length) := by
  induction rest generalizing front steps with
  | nil =>
    have atEnd : ¬ front.length < items.length := by simp [whole]
    cases steps <;> rw [pass, if_neg atEnd] <;> rfl
  | cons here rest ih =>
    have inside : front.length < items.length := by simp [whole]
    cases steps with
    | zero => simp at enough
    | succ steps =>
      rw [pass, if_pos inside, item_split whole rfl, ok_bind, List.takeWhile_cons]
      split
      · have split : items = (front ++ [here]) ++ rest := by simp [whole]
        have later := ih split (Nat.le_of_succ_le_succ enough)
        rw [List.length_append, List.length_singleton] at later
        rw [later, List.length_cons, Nat.add_assoc, Nat.add_comm 1]
      · rfl

section Sorted

variable {items : List α} {key : α → Nat}
  (sorted : items.Pairwise (fun first second => key first ≤ key second))
include sorted

theorem filter_append_filter (bound : Nat) :
    items.filter (fun member => key member < bound) ++
      items.filter (fun member => bound ≤ key member) = items := by
  induction items with
  | nil => rfl
  | cons first rest ih =>
    obtain ⟨least, sorted⟩ := List.pairwise_cons.1 sorted
    by_cases early : key first < bound
    · rw [List.filter_cons_of_pos (by simpa using early),
        List.filter_cons_of_neg (by simpa using early), List.cons_append, ih sorted]
    · have late : ∀ member ∈ first :: rest, bound ≤ key member := List.forall_mem_cons.2
        ⟨Nat.not_lt.1 early, fun member inside =>
          Nat.le_trans (Nat.not_lt.1 early) (least member inside)⟩
      rw [List.filter_eq_nil_iff.2 (by simpa using late),
        List.filter_eq_self.2 (by simpa using late), List.nil_append]

theorem takeWhile_eq_filter (bound : Nat) :
    items.takeWhile (fun member => key member < bound) =
      items.filter (fun member => key member < bound) := by
  have early : ∀ member ∈ items.filter (fun member => key member < bound),
      decide (key member < bound) = true := fun member inside => (List.mem_filter.1 inside).2
  have nothing : (items.filter (fun member => bound ≤ key member)).takeWhile
      (fun member => key member < bound) = [] := by
    cases after : items.filter (fun member => bound ≤ key member) with
    | nil => rfl
    | cons first rest =>
      have late := (List.mem_filter.1 (after ▸ List.mem_cons_self ..)).2
      exact List.takeWhile_cons_of_neg (by simpa using late)
  conv => lhs; rw [← filter_append_filter sorted bound]
  rw [List.takeWhile_append_of_pos early, nothing, List.append_nil]

/-- What lies below the upper one of two bounds. -/
theorem filter_between {low high : Nat} (ordered : low ≤ high) :
    items.filter (fun member => key member < low) ++
      items.filter (fun member => low ≤ key member && key member < high) =
        items.filter (fun member => key member < high) := by
  have halves := filter_append_filter (sorted.filter (fun member => key member < high)) low
  rw [List.filter_filter, List.filter_filter] at halves
  rw [← halves]
  congr 1
  refine List.filter_congr (fun member _ => ?_)
  rw [Bool.eq_iff_iff]
  simp only [Bool.and_eq_true, decide_eq_true_eq]
  omega

/-- The part of a sorted list between two bounds, found by counting what lies below each. -/
theorem part_sorted (low high : Nat) :
    part items (items.takeWhile (fun member => key member < low)).length
      (max (items.takeWhile (fun member => key member < high)).length
        (items.takeWhile (fun member => key member < low)).length) =
      .ok (items.filter (fun member => low ≤ key member && key member < high)) := by
  rw [takeWhile_eq_filter sorted, takeWhile_eq_filter sorted]
  rcases Nat.le_total low high with ordered | turned
  · have below := filter_between sorted ordered
    have middle := part_middle (items.filter (fun member => key member < low))
      (items.filter (fun member => low ≤ key member && key member < high))
      (items.filter (fun member => high ≤ key member))
    rw [← List.append_assoc, below, filter_append_filter sorted] at middle
    rw [← below, List.length_append, Nat.max_eq_left (Nat.le_add_right ..), middle]
  · have shorter : (items.filter (fun member => key member < high)).length ≤
        (items.filter (fun member => key member < low)).length := by
      rw [← List.countP_eq_length_filter, ← List.countP_eq_length_filter]
      refine List.countP_mono_left (fun member _ less => ?_)
      exact decide_eq_true (Nat.lt_of_lt_of_le (of_decide_eq_true less) turned)
    have nothing : items.filter (fun member => low ≤ key member && key member < high) = [] := by
      refine List.filter_eq_nil_iff.2 (fun member _ => ?_)
      simp only [Bool.and_eq_true, decide_eq_true_eq]
      omega
    have middle := part_middle (items.filter (fun member => key member < low)) []
      (items.filter (fun member => low ≤ key member))
    rw [List.nil_append, filter_append_filter sorted] at middle
    rw [nothing, Nat.max_eq_right shorter]
    exact middle

end Sorted

section Collect

variable {γ : Type} {f : α → β} {items : List α}

theorem collect_map {find : β → Checked (Option γ)} {found : α → Option γ}
    (same : ∀ member ∈ items, find (f member) = .ok (found member)) :
    collect find (items.map f) = .ok (items.filterMap found) := by
  induction items with
  | nil => rfl
  | cons first rest ih =>
    obtain ⟨here, later⟩ := List.forall_mem_cons.1 same
    rw [List.map_cons, collect, here, ok_bind, ih later, List.filterMap_cons]
    cases found first <;> rfl

theorem each_map {make : β → Checked γ} {made : α → γ}
    (same : ∀ member ∈ items, make (f member) = .ok (made member)) :
    each make (items.map f) = .ok (items.map made) := by
  rw [each, collect_map (fun member inside => by rw [same member inside, ok_map]),
    List.filterMap_eq_map']

theorem select_map {test : β → Checked Bool} {holds : α → Bool}
    (same : ∀ member ∈ items, test (f member) = .ok (holds member)) :
    select test (items.map f) = .ok ((items.filter holds).map f) := by
  rw [select, collect_map (fun member inside => by rw [same member inside, ok_map])]
  congr 1
  induction items with
  | nil => rfl
  | cons first rest ih =>
    have later := ih (fun member inside => same member (List.mem_cons_of_mem _ inside))
    cases here : holds first <;> simp [here, later]

theorem each_eq_ok {make : α → Checked β} {made : α → β}
    (same : ∀ member ∈ items, make member = .ok (made member)) :
    each make items = .ok (items.map made) := by
  simpa using each_map (f := id) same

end Collect

end Checked

end CSurvey
