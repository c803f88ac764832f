import CSurvey.Proofs.Sorted
import CSurvey.Proofs.Token.Lines

/-!
# Looking up lines

The ranges of the lines of a text tile it, and each byte has the number of the one line
whose range holds it.  All of this comes from one comparison: the lines that start at or
before a byte are the first ones, as many as the number of its line.  The scanner, which
counts line feeds, gives tokens the same numbers.
-/

namespace CSurvey

namespace Text

/-- What one more line adds ends in its only line feed, or it has none and the text ends there. -/
theorem exists_firstLines_succ {index : Nat} {cs : List Char} (proper : firstLines index cs ≠ cs) :
    ∃ line part, firstLines (index + 1) cs = firstLines index cs ++ line ∧ '\n' ∉ part ∧
      (line = part ++ ['\n'] ∨ line = part ∧ part ≠ [] ∧ firstLines (index + 1) cs = cs) := by
  induction cs generalizing index with
  | nil => simp at proper
  | cons c rest ih =>
    by_cases newline : c = '\n'
    · subst newline
      cases index with
      | zero => exact ⟨['\n'], [], by simp [firstLines], by simp, Or.inl rfl⟩
      | succ index =>
        rw [firstLines_cons_newline] at proper
        obtain ⟨line, part, adds, oneLine, ends⟩ := ih (fun whole => proper (by rw [whole]))
        rw [firstLines_cons_newline, firstLines_cons_newline, List.cons.injEq]
        exact ⟨line, part, by rw [adds, List.cons_append], oneLine, by simpa using ends⟩
    · cases index with
      | zero =>
        rw [firstLines_cons newline, firstLines_zero, List.cons.injEq]
        by_cases nothing : rest = []
        · exact ⟨[c], [c], by simp [nothing], by simpa using Ne.symm newline,
            Or.inr (by simp [nothing])⟩
        · have proper : firstLines 0 rest ≠ rest := by simpa using Ne.symm nothing
          obtain ⟨line, part, adds, oneLine, ends⟩ := ih proper
          rw [firstLines_zero, List.nil_append] at adds
          refine ⟨c :: line, c :: part, by rw [adds, List.nil_append], ?_, ?_⟩
          · simp [oneLine, Ne.symm newline]
          · rcases ends with rfl | ⟨rfl, -, whole⟩
            · exact Or.inl rfl
            · exact Or.inr ⟨rfl, List.cons_ne_nil c line, rfl, whole⟩
      | succ index =>
        rw [firstLines_cons newline] at proper
        obtain ⟨line, part, adds, oneLine, ends⟩ := ih (fun whole => proper (by rw [whole]))
        rw [firstLines_cons newline, firstLines_cons newline, List.cons.injEq]
        exact ⟨line, part, by rw [adds, List.cons_append], oneLine, by simpa using ends⟩

end Text

namespace LineIndex

open Text

/-- A line holds the byte at an offset. -/
def Holds (index : LineIndex) (line offset : Nat) : Prop :=
  (index.lineRange line).1 ≤ offset ∧ offset < (index.lineRange line).2

/-- The characters of a line. -/
def lineText (index : LineIndex) (cs : List Char) (line : Nat) : List Char :=
  slice cs (index.lineRange line).1 (index.lineRange line).2

/-- The lines of an index are those of a text. -/
structure Tiles (index : LineIndex) (cs : List Char) : Prop where
  empty : index.count = 0 ↔ cs = []
  nonempty : ∀ line, 1 ≤ line → line ≤ index.count →
    (index.lineRange line).1 < (index.lineRange line).2
  /-- The ranges follow one another from the first byte to the last. -/
  first : 1 ≤ index.count → (index.lineRange 1).1 = 0
  next : ∀ line, 1 ≤ line → line < index.count →
    (index.lineRange line).2 = (index.lineRange (line + 1)).1
  last : 1 ≤ index.count → (index.lineRange index.count).2 = byteLength cs
  /-- A line has one line feed, at its end; only the last may have none. -/
  feed : ∀ line, 1 ≤ line → line ≤ index.count → ∃ part, '\n' ∉ part ∧
    (index.lineText cs line = part ++ ['\n'] ∨
      line = index.count ∧ index.lineText cs line = part)
  /-- Each byte is held by the line of its number and by no other. -/
  lookup : ∀ offset, offset < byteLength cs →
    1 ≤ index.lineOf offset ∧ index.lineOf offset ≤ index.count ∧
      ∀ line, index.Holds line offset ↔ line = index.lineOf offset
  /-- The range of several lines holds what their ranges hold, one after the other. -/
  runs : ∀ first last, 1 ≤ first → first ≤ last → last ≤ index.count →
    slice cs (index.linesRange first last).1 (index.linesRange first last).2 =
        (List.range' first (last + 1 - first)).flatMap (index.lineText cs) ∧
      ∀ offset, (index.linesRange first last).1 ≤ offset ∧
          offset < (index.linesRange first last).2 ↔
        ∃ line, first ≤ line ∧ line ≤ last ∧ index.Holds line offset
  /-- Halving the starts finds the number of a line. -/
  halving : ∀ offset,
    index.lineOf offset = max 1 (Sorted.partitionPoint (· ≤ offset) index.starts)

section Starts

variable {cs : List Char} {offset : Nat}

theorem byteLength_firstLines_le {first second : Nat} (le : first ≤ second) :
    byteLength (firstLines first cs) ≤ byteLength (firstLines second cs) :=
  byteLength_le_of_isPrefix (firstLines_isPrefix_firstLines cs le)

theorem byteLength_firstLines_lt {index : Nat} (proper : firstLines index cs ≠ cs) :
    byteLength (firstLines index cs) < byteLength (firstLines (index + 1) cs) := by
  obtain ⟨line, part, adds, -, ends⟩ := exists_firstLines_succ proper
  have nonempty : line ≠ [] := by
    rcases ends with rfl | ⟨rfl, nonempty, -⟩
    · simp
    · exact nonempty
  have longer := byteLength_pos nonempty
  rw [adds, byteLength_append]
  omega

theorem pairwise_starts (cs : List Char) : (ofChars cs).starts.Pairwise (· < ·) := by
  refine List.pairwise_iff_getElem.2 (fun first second isFirst isSecond before => ?_)
  have firstStart := getElem?_starts cs first
  have secondStart := getElem?_starts cs second
  rw [List.getElem?_eq_getElem isFirst, if_neg (lt_count_iff.1 isFirst), Option.some.injEq]
    at firstStart
  rw [List.getElem?_eq_getElem isSecond, if_neg (lt_count_iff.1 isSecond), Option.some.injEq]
    at secondStart
  rw [firstStart, secondStart]
  exact Nat.lt_of_lt_of_le (byteLength_firstLines_lt (lt_count_iff.1 isFirst))
    (byteLength_firstLines_le before)

/-- In a rising list, the elements up to a bound are the first ones. -/
theorem lt_countP_iff {starts : List Nat} (rising : starts.Pairwise (· < ·)) {index : Nat} :
    index < starts.countP (· ≤ offset) ↔ ∃ start ∈ starts[index]?, start ≤ offset := by
  induction starts generalizing index with
  | nil => simp
  | cons start rest ih =>
    obtain ⟨above, rising⟩ := List.pairwise_cons.1 rising
    by_cases within : start ≤ offset
    · rw [List.countP_cons_of_pos (by simpa using within)]
      cases index with
      | zero => simp [within]
      | succ index => rw [Nat.add_lt_add_iff_right, ih rising, List.getElem?_cons_succ]
    · have beyond : ∀ other ∈ start :: rest, ¬ other ≤ offset := by
        refine List.forall_mem_cons.2 ⟨within, fun other later le => within ?_⟩
        exact Nat.le_trans (Nat.le_of_lt (above other later)) le
      have none : (start :: rest).countP (· ≤ offset) = 0 :=
        List.countP_eq_zero.2 (fun other member => by simpa using beyond other member)
      rw [none]
      refine iff_of_false (Nat.not_lt_zero _) ?_
      rintro ⟨other, member, le⟩
      exact beyond other (List.mem_of_getElem? member) le

/-- The lines that start at or before a byte of the text are as many as the number of its line. -/
theorem lt_lineOf_iff (inside : offset < byteLength cs) {index : Nat} :
    index < (ofChars cs).lineOf offset ↔ byteLength (firstLines index cs) ≤ offset := by
  have starts {index : Nat} : index < (ofChars cs).starts.countP (· ≤ offset) ↔
      byteLength (firstLines index cs) ≤ offset := by
    rw [lt_countP_iff (pairwise_starts cs), getElem?_starts]
    split
    · rename_i whole
      rw [whole]
      simpa using inside
    · simp
  have first : 0 < (ofChars cs).starts.countP (· ≤ offset) := starts.2 (by simp)
  rw [lineOf, Nat.max_eq_right first, starts]

theorem holds_iff (inside : offset < byteLength cs) (line : Nat) :
    (ofChars cs).Holds line offset ↔ line = (ofChars cs).lineOf offset := by
  have positive : 0 < (ofChars cs).lineOf offset := Nat.le_max_left ..
  cases line with
  | zero =>
    refine iff_of_false (fun holds => ?_) (Nat.ne_of_lt positive)
    exact Nat.lt_irrefl _ (Nat.lt_of_le_of_lt holds.1 holds.2)
  | succ before =>
    have starts : before < _ ↔ _ := lt_lineOf_iff inside
    have ends : before + 1 < _ ↔ _ := lt_lineOf_iff inside
    rw [Holds, lineRange_succ]
    dsimp only
    omega

theorem lineOf_le_count (inside : offset < byteLength cs) :
    (ofChars cs).lineOf offset ≤ (ofChars cs).count := by
  by_contra beyond
  have starts := (lt_lineOf_iff inside).1 (Nat.lt_of_not_le beyond)
  rw [firstLines_count] at starts
  omega

end Starts

section Ranges

variable (cs : List Char)

theorem lineText_succ (index : Nat) : (ofChars cs).lineText cs (index + 1) =
    slice cs (byteLength (firstLines index cs)) (byteLength (firstLines (index + 1) cs)) := by
  rw [lineText, lineRange_succ]

theorem flatMap_lineText (before length : Nat) :
    (List.range' (before + 1) length).flatMap ((ofChars cs).lineText cs) =
      slice cs (byteLength (firstLines before cs))
        (byteLength (firstLines (before + length) cs)) := by
  induction length generalizing before with
  | zero => simp [slice]
  | succ length ih =>
    rw [List.range'_succ, List.flatMap_cons, ih (before + 1), lineText_succ,
      slice_append_slice (firstLines_isPrefix_firstLines cs (Nat.le_succ before))
        (firstLines_isPrefix_firstLines cs (by omega)) (firstLines_isPrefix _ cs),
      Nat.add_right_comm, Nat.add_assoc]

/-- A byte between the starts of two lines is held by one of the lines between. -/
theorem exists_holds_iff (before last offset : Nat) :
    byteLength (firstLines before cs) ≤ offset ∧ offset < byteLength (firstLines last cs) ↔
      ∃ line, before + 1 ≤ line ∧ line ≤ last ∧ (ofChars cs).Holds line offset := by
  have bounded : byteLength (firstLines last cs) ≤ byteLength cs :=
    byteLength_le_of_isPrefix (firstLines_isPrefix last cs)
  constructor
  · rintro ⟨begins, ends⟩
    have inside : offset < byteLength cs := Nat.lt_of_lt_of_le ends bounded
    have after := (lt_lineOf_iff inside).2 begins
    have upTo : (ofChars cs).lineOf offset ≤ last :=
      Nat.le_of_not_lt ((lt_lineOf_iff inside).not.2 (Nat.not_le.2 ends))
    exact ⟨_, after, upTo, (holds_iff inside _).2 rfl⟩
  · rintro ⟨line, after, upTo, begins, ends⟩
    obtain ⟨index, rfl⟩ := Nat.exists_eq_add_of_le' (Nat.le_trans (Nat.le_add_left 1 before) after)
    rw [lineRange_succ] at begins ends
    exact ⟨Nat.le_trans (byteLength_firstLines_le (by omega)) begins,
      Nat.lt_of_lt_of_le ends (byteLength_firstLines_le upTo)⟩

theorem tiles_ofChars : (ofChars cs).Tiles cs where
  empty := count_eq_zero
  nonempty line positive inText := by
    obtain ⟨index, rfl⟩ := Nat.exists_eq_add_of_le' positive
    rw [lineRange_succ]
    exact byteLength_firstLines_lt (lt_count_iff.1 inText)
  first _ := by rw [lineRange_succ, firstLines_zero, byteLength_nil]
  next line positive _ := by
    obtain ⟨index, rfl⟩ := Nat.exists_eq_add_of_le' positive
    rw [lineRange_succ, lineRange_succ]
  last positive := by
    obtain ⟨index, eq⟩ := Nat.exists_eq_add_of_le' positive
    have whole := firstLines_count cs
    rw [eq] at whole ⊢
    rw [lineRange_succ, whole]
  feed line positive inText := by
    obtain ⟨index, rfl⟩ := Nat.exists_eq_add_of_le' positive
    obtain ⟨line, part, adds, oneLine, feed⟩ := exists_firstLines_succ (lt_count_iff.1 inText)
    obtain ⟨back, eq⟩ := firstLines_isPrefix (index + 1) cs
    have sliced := slice_of_append (firstLines index cs) line back
      (by rw [← List.append_assoc, ← adds, eq])
    rw [lineText_succ, adds, sliced]
    refine ⟨part, oneLine, feed.imp_right (fun atEnd => ?_)⟩
    obtain ⟨same, -, whole⟩ := atEnd
    have notLess := lt_count_iff.not_left.2 whole
    exact ⟨by omega, same⟩
  lookup offset inside := ⟨Nat.le_max_left .., lineOf_le_count inside, holds_iff inside⟩
  runs first last positive ordered _ := by
    obtain ⟨before, rfl⟩ := Nat.exists_eq_add_of_le' positive
    have length : before + (last + 1 - (before + 1)) = last := by omega
    rw [linesRange_eq cs positive (Nat.le_trans positive ordered), Nat.add_sub_cancel]
    refine ⟨?_, exists_holds_iff cs before last⟩
    rw [flatMap_lineText, length]
  halving offset := by
    have cut : (ofChars cs).starts.Pairwise (fun first second =>
        decide (second ≤ offset) = true → decide (first ≤ offset) = true) := by
      refine (pairwise_starts cs).imp (fun less => ?_)
      simp only [decide_eq_true_eq]
      omega
    rw [Sorted.partitionPoint_eq cut, ← List.countP_eq_length_filter, lineOf]

end Ranges

end LineIndex

/-- The lines of a text tile it, each byte is found on its line, and the scanner puts each token on
the line on which its first byte is found. -/
theorem lines_tile_text (text : String) :
    (LineIndex.ofText text).Tiles text.toList ∧
      ∀ tok ∈ scan text,
        (LineIndex.ofText text).lineOf tok.span.start = tok.span.line ∧
          tok.span.line ≤ (LineIndex.ofText text).count := by
  refine ⟨LineIndex.tiles_ofChars text.toList, fun tok member => ?_⟩
  refine ⟨?_, line_le_count_of_mem_scan member⟩
  obtain ⟨front, part, back, eq, -, nonempty, span⟩ := (layout_scan text).exists_part member
  rw [span, List.nil_append, LineIndex.ofText, eq]
  exact LineIndex.lineOf_byteLength front (by simp [nonempty])

/-- Three lines with a character of two bytes and an empty line, the last ended by a line feed that
a literal takes in: the literal is on the last line, and its end is past all lines. -/
theorem lines_tile_text_escaped_end :
    let text := "é\n\n x \"\\\n"
    let index := LineIndex.ofText text
    let literal : Token := ⟨.string, "\"\\\n", ⟨7, 10, 3, 4⟩, 0, 0, false, false⟩
    index.Tiles text.toList ∧ literal ∈ scan text ∧
      [1, 2, 3, 4].map index.lineRange = [(0, 3), (3, 4), (4, 10), (10, 10)] ∧
      [0, 1, 2, 3, 4, 9, 10].map index.lineOf = [1, 1, 1, 2, 3, 3, 3] ∧
      index.lineOf literal.span.start = literal.span.line ∧ literal.span.line ≤ index.count := by
  intro text index literal
  have member : literal ∈ scan text := by decide +kernel
  obtain ⟨tiles, found⟩ := lines_tile_text text
  exact ⟨tiles, member, by decide +kernel, by decide +kernel, found literal member⟩

end CSurvey
