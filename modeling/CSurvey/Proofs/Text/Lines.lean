import CSurvey.LineIndex
import CSurvey.Proofs.Text.Cut

/-!
# The first lines of a text

A line index is determined by one function: the beginning of a text that holds
its first `count` lines.  The starts and ranges of lines are byte lengths of such
beginnings, and the number of line feeds in another beginning tells where it
stands among them.
-/

namespace CSurvey

namespace Text

/-- The first `count` lines of a text, line feeds included; all of it when it has no more. -/
def firstLines : Nat → List Char → List Char
  | 0, _ => []
  | _ + 1, [] => []
  | count + 1, c :: rest =>
    c :: firstLines (if c = '\n' then count else count + 1) rest

@[simp]
theorem firstLines_zero (cs : List Char) : firstLines 0 cs = [] := by
  cases cs <;> rfl

@[simp]
theorem firstLines_nil (count : Nat) : firstLines count [] = [] := by
  cases count <;> rfl

theorem firstLines_cons_newline (count : Nat) (rest : List Char) :
    firstLines (count + 1) ('\n' :: rest) = '\n' :: firstLines count rest :=
  rfl

theorem firstLines_cons {c : Char} (other : c ≠ '\n') (count : Nat) (rest : List Char) :
    firstLines (count + 1) (c :: rest) = c :: firstLines (count + 1) rest := by
  simp [firstLines, other]

theorem firstLines_isPrefix (count : Nat) (cs : List Char) : firstLines count cs <+: cs := by
  induction cs generalizing count with
  | nil => simp
  | cons c rest ih =>
    cases count with
    | zero => simp
    | succ count => exact (List.prefix_cons_inj c).2 (ih _)

/-- As long as it is not the whole text, a beginning of `count` lines has `count` line feeds. -/
theorem count_firstLines {count : Nat} {cs : List Char} (proper : firstLines count cs ≠ cs) :
    (firstLines count cs).count '\n' = count := by
  induction cs generalizing count with
  | nil => simp at proper
  | cons c rest ih =>
    cases count with
    | zero => simp
    | succ count =>
      by_cases newline : c = '\n'
      · subst newline
        rw [firstLines_cons_newline] at proper ⊢
        rw [List.count_cons_self, ih (fun eq => proper (by rw [eq]))]
      · rw [firstLines_cons newline] at proper ⊢
        rw [List.count_cons_of_ne newline, ih (fun eq => proper (by rw [eq]))]

/-- What the first lines leave something of ends in a line feed. -/
theorem exists_eq_firstLines {count : Nat} {cs : List Char}
    (proper : firstLines (count + 1) cs ≠ cs) :
    ∃ front back, cs = front ++ '\n' :: back ∧ firstLines (count + 1) cs = front ++ ['\n'] ∧
      front.count '\n' = count := by
  induction cs generalizing count with
  | nil => simp at proper
  | cons c rest ih =>
    by_cases newline : c = '\n'
    · subst newline
      rw [firstLines_cons_newline] at proper ⊢
      cases count with
      | zero => exact ⟨[], rest, rfl, by simp, rfl⟩
      | succ count =>
        obtain ⟨front, back, eq, first, feeds⟩ := ih (fun whole => proper (by rw [whole]))
        refine ⟨'\n' :: front, back, by rw [eq]; rfl, by rw [first]; rfl, ?_⟩
        rw [List.count_cons_self, feeds]
    · rw [firstLines_cons newline] at proper ⊢
      obtain ⟨front, back, eq, first, feeds⟩ := ih (fun whole => proper (by rw [whole]))
      refine ⟨c :: front, back, by rw [eq]; rfl, by rw [first]; rfl, ?_⟩
      rw [List.count_cons_of_ne newline, feeds]

theorem count_lt_of_isPrefix_firstLines {front : List Char} {count : Nat} {cs : List Char}
    (inside : front <+: firstLines count cs) (proper : front ≠ firstLines count cs) :
    front.count '\n' < count := by
  induction cs generalizing count front with
  | nil => simp_all
  | cons c rest ih =>
    cases count with
    | zero => simp_all
    | succ count =>
      cases front with
      | nil => simp
      | cons d front =>
        rw [firstLines] at inside proper
        obtain ⟨rfl, inside⟩ := List.cons_prefix_cons.1 inside
        have shorter := ih inside (fun eq => proper (by rw [eq]))
        by_cases newline : d = '\n'
        · subst newline
          rw [if_pos rfl] at shorter
          rw [List.count_cons_self]
          omega
        · rw [if_neg newline] at shorter
          rwa [List.count_cons_of_ne newline]

theorem isPrefix_firstLines {front cs : List Char} (inside : front <+: cs) {count : Nat}
    (fewer : front.count '\n' < count) : front <+: firstLines count cs := by
  by_cases proper : firstLines count cs = cs
  · rwa [proper]
  rcases List.prefix_or_prefix_of_prefix inside (firstLines_isPrefix count cs) with within | beyond
  · exact within
  · have atLeast := beyond.sublist.count_le '\n'
    rw [count_firstLines proper] at atLeast
    omega

theorem firstLines_isPrefix_of_le {front cs : List Char} (inside : front <+: cs) {count : Nat}
    (atLeast : count ≤ front.count '\n') : firstLines count cs <+: front := by
  rcases List.prefix_or_prefix_of_prefix inside (firstLines_isPrefix count cs) with within | beyond
  · by_cases same : front = firstLines count cs
    · exact ⟨[], by rw [List.append_nil, same]⟩
    · have fewer := count_lt_of_isPrefix_firstLines within same
      omega
  · exact beyond

theorem firstLines_isPrefix_firstLines (cs : List Char) {first second : Nat}
    (le : first ≤ second) : firstLines first cs <+: firstLines second cs := by
  by_cases proper : firstLines second cs = cs
  · rw [proper]
    exact firstLines_isPrefix first cs
  · refine firstLines_isPrefix_of_le (firstLines_isPrefix second cs) ?_
    rwa [count_firstLines proper]

end Text

namespace LineIndex

open Text

theorem getElem?_laterStarts (offset index : Nat) (cs : List Char) :
    (laterStarts offset cs)[index]? =
      if firstLines (index + 1) cs = cs then none
      else some (offset + byteLength (firstLines (index + 1) cs)) := by
  induction cs generalizing offset index with
  | nil => simp [laterStarts]
  | cons c rest ih =>
    by_cases newline : c = '\n'
    · subst newline
      cases rest with
      | nil => simp [laterStarts, firstLines]
      | cons d rest =>
        cases index with
        | zero => simp [laterStarts, firstLines]
        | succ index =>
          simp only [laterStarts, List.isEmpty_cons, Bool.not_false, Bool.and_true,
            decide_true, if_true, List.getElem?_cons_succ] at ih ⊢
          rw [ih, firstLines_cons_newline]
          simp [Nat.add_assoc]
    · rw [firstLines_cons newline]
      simp [laterStarts, newline, ih, Nat.add_assoc]

/-- A line starts where the lines before it end, and there is no line after the whole text. -/
theorem getElem?_starts (cs : List Char) (index : Nat) :
    (ofChars cs).starts[index]? =
      if firstLines index cs = cs then none else some (byteLength (firstLines index cs)) := by
  cases cs with
  | nil => simp [ofChars]
  | cons c rest =>
    cases index with
    | zero => simp [ofChars]
    | succ index =>
      have later := getElem?_laterStarts 0 index (c :: rest)
      rw [Nat.zero_add] at later
      simpa [ofChars] using later

theorem lt_count_iff {cs : List Char} {index : Nat} :
    index < (ofChars cs).count ↔ firstLines index cs ≠ cs := by
  have start := getElem?_starts cs index
  rw [count]
  constructor
  · intro lt eq
    rw [if_pos eq, List.getElem?_eq_none_iff] at start
    omega
  · intro proper
    rw [if_neg proper] at start
    exact (List.getElem?_eq_some_iff.1 start).1

theorem firstLines_count (cs : List Char) : firstLines (ofChars cs).count cs = cs := by
  refine Classical.byContradiction (fun proper => ?_)
  exact Nat.lt_irrefl _ (lt_count_iff.2 proper)

theorem count_eq_zero {cs : List Char} : (ofChars cs).count = 0 ↔ cs = [] := by
  constructor
  · intro zero
    have whole := firstLines_count cs
    rw [zero, firstLines_zero] at whole
    exact whole.symm
  · rintro rfl
    rfl

theorem lineRange_succ (cs : List Char) (index : Nat) :
    (ofChars cs).lineRange (index + 1) =
      (byteLength (firstLines index cs), byteLength (firstLines (index + 1) cs)) := by
  have next := getElem?_starts cs (index + 1)
  by_cases whole : firstLines index cs = cs
  · have further := firstLines_isPrefix_firstLines cs (Nat.le_succ index)
    rw [whole] at further
    have same : firstLines (index + 1) cs = cs :=
      (firstLines_isPrefix (index + 1) cs).eq_of_length_le further.length_le
    rw [lineRange, getElem?_starts, if_pos whole, whole, same]
    rfl
  · simp only [lineRange, getElem?_starts, if_neg whole]
    split <;> simp_all [ofChars]

theorem linesRange_eq (cs : List Char) {first last : Nat} (firstPositive : 1 ≤ first)
    (lastPositive : 1 ≤ last) :
    (ofChars cs).linesRange first last =
      (byteLength (firstLines (first - 1) cs), byteLength (firstLines last cs)) := by
  obtain ⟨before, rfl⟩ := Nat.exists_eq_add_of_le' firstPositive
  obtain ⟨most, rfl⟩ := Nat.exists_eq_add_of_le' lastPositive
  rw [linesRange, lineRange_succ, lineRange_succ, Nat.add_sub_cancel]

theorem lt_of_mem_laterStarts {offset start : Nat} {cs : List Char}
    (member : start ∈ laterStarts offset cs) : offset < start := by
  induction cs generalizing offset with
  | nil => cases member
  | cons c rest ih =>
    have size := c.utf8Size_pos
    have later (inRest : start ∈ laterStarts (offset + c.utf8Size) rest) : offset < start := by
      have beyond := ih inRest
      omega
    rw [laterStarts] at member
    split at member
    · rcases List.mem_cons.1 member with rfl | inRest
      · omega
      · exact later inRest
    · exact later member

theorem countP_laterStarts (offset : Nat) (front : List Char) {back : List Char}
    (nonempty : back ≠ []) :
    (laterStarts offset (front ++ back)).countP (· ≤ offset + byteLength front) =
      front.count '\n' := by
  induction front generalizing offset with
  | nil =>
    have beyond : ∀ start ∈ laterStarts offset back, ¬ decide (start ≤ offset) = true := by
      intro start member
      have := lt_of_mem_laterStarts member
      simpa using this
    exact List.countP_eq_zero.2 beyond
  | cons c front ih =>
    have rest := ih (offset + c.utf8Size)
    have notEmpty : (front ++ back).isEmpty = false := by simp [nonempty]
    rw [Nat.add_assoc] at rest
    rw [List.cons_append, laterStarts, byteLength_cons]
    by_cases newline : c = '\n'
    · subst newline
      rw [if_pos (by simp [notEmpty]), List.countP_cons_of_pos (by simp), rest, List.count_cons_self]
    · rw [if_neg (by simp [newline]), rest, List.count_cons_of_ne newline]

/-- A byte stands on the line after as many line feeds as there are before it. -/
theorem lineOf_byteLength (front : List Char) {back : List Char} (nonempty : back ≠ []) :
    (ofChars (front ++ back)).lineOf (byteLength front) = 1 + front.count '\n' := by
  have later := countP_laterStarts 0 front nonempty
  have notEmpty : (front ++ back).isEmpty = false := by simp [nonempty]
  rw [Nat.zero_add] at later
  rw [lineOf, ofChars, notEmpty, if_neg Bool.false_ne_true, List.countP_cons_of_pos (by simp), later]
  omega

theorem lineOf_last (front : List Char) {part : List Char} (back : List Char)
    (nonempty : part ≠ []) (oneLine : '\n' ∉ part) (small : ∀ c ∈ part, c.utf8Size = 1) :
    (ofChars (front ++ (part ++ back))).lineOf (byteLength front + byteLength part - 1) =
      1 + front.count '\n' := by
  obtain ⟨init, last, rfl⟩ : ∃ init last, part = init ++ [last] :=
    ⟨_, _, (List.dropLast_concat_getLast nonempty).symm⟩
  have width : last.utf8Size = 1 := small last (by simp)
  have stop : byteLength front + byteLength (init ++ [last]) - 1 = byteLength (front ++ init) := by
    simp only [byteLength_append, byteLength_cons, byteLength_nil, width]
    omega
  have split : front ++ (init ++ [last] ++ back) = (front ++ init) ++ (last :: back) := by simp
  have noFeed : init.count '\n' = 0 :=
    List.count_eq_zero_of_not_mem (fun feed => oneLine (List.mem_append_left _ feed))
  rw [stop, split, lineOf_byteLength (front ++ init) (by simp), List.count_append, noFeed,
    Nat.add_zero]

end LineIndex

end CSurvey
