import CSurvey.Proofs.Chunk.Cuts
import CSurvey.Proofs.Chunk.Tiling
import CSurvey.Proofs.Token.LineEnd

/-!
# Reading a chunk alone

The text of a chunk is scanned into the tokens that begin in it as if it were a
text of its own: where a chunk begins no token and no brace is open.  A directive
may be, since a line counts as clean as soon as a token of a directive ends it,
though a backslash before its line feed continues the directive.  A chunk that
begins inside such a directive is read differently alone.
-/

namespace CSurvey

/-- A backslash before its line feed continues a directive past a line. -/
structure DirectiveGoesOn (text : String) (line : Nat) : Prop where
  directive : ∃ tok, (tokensUpTo (scan text) line).getLast? = some tok ∧ tok.directive = true
  backslash : ∃ front, Text.firstLines line text.toList = front ++ ['\n'] ∧
    ScanState.endsInBackslash front = true

/-- What the scanner knows after `line` lines that no token runs past. -/
structure StartsAfter (text : String) (line : Nat) (state : ScanState) : Prop where
  sees : state.Sees (Text.firstLines line text.toList)
  nested : Nested 0 (tokensUpTo (scan text) line) state.depth
  lineHasCode : state.lineHasCode = false
  backslash : state.backslash = false
  goesOn : state.inDirective = true → DirectiveGoesOn text line

theorem tokensUpTo_of_append {before after : List Token} {line : Nat}
    (early : ∀ tok ∈ before, tok.span.line ≤ line) (late : ∀ tok ∈ after, line < tok.span.line) :
    tokensUpTo (before ++ after) line = before ∧ tokensAfter (before ++ after) line = after := by
  unfold tokensUpTo tokensAfter
  rw [List.filter_append, List.filter_append]
  constructor
  · rw [List.filter_eq_self.2 (by simpa using early),
      List.filter_eq_nil_iff.2 (by simpa using late), List.append_nil]
  · rw [List.filter_eq_nil_iff.2 (by simpa using early),
      List.filter_eq_self.2 (by simpa using late), List.nil_append]

section Lines

variable {text : String} {line : Nat}

theorem startsAfter_zero (text : String) : StartsAfter text 0 .initial where
  sees := by
    rw [Text.firstLines_zero]
    exact .initial
  nested := by
    have nothing : tokensUpTo (scan text) 0 = [] := by
      refine List.filter_eq_nil_iff.2 (fun tok member => ?_)
      have positive := line_pos_of_mem_scan member
      simp only [decide_eq_true_eq]
      omega
    rw [nothing]
    rfl
  lineHasCode := rfl
  backslash := rfl
  goesOn inside := nomatch inside

theorem exists_run_after
    (within : ∀ tok ∈ scan text, tok.span.line ≤ line → tok.span.endLine ≤ line)
    (less : line < (LineIndex.ofText text).count) :
    ∃ state rest last, text.toList = Text.firstLines line text.toList ++ rest ∧
      ScanState.Run state rest (tokensAfter (scan text) line) last [] ∧
      StartsAfter text line state := by
  obtain ⟨last, run⟩ := exists_run_scan text
  cases line with
  | zero =>
    have all : tokensAfter (scan text) 0 = scan text :=
      List.filter_eq_self.2 (fun tok member => decide_eq_true (line_pos_of_mem_scan member))
    rw [Text.firstLines_zero, all]
    exact ⟨.initial, text.toList, last, rfl, run, startsAfter_zero text⟩
  | succ line =>
    obtain ⟨front, back, whole, first, feeds⟩ :=
      Text.exists_eq_firstLines (LineIndex.lt_count_iff.1 less)
    have number : 1 + ([] ++ front).count '\n' = line + 1 := by
      rw [List.nil_append, feeds, Nat.add_comm]
    rw [whole] at run
    obtain ⟨before, state, after, tokens, upTo, sees, onward⟩ :=
      run.stops .initial (fun tok member => by rw [number]; exact within tok member)
    have stands : state.line = line + 1 := sees.here.line.trans number
    obtain ⟨isBefore, isAfter⟩ := tokensUpTo_of_append
      (fun tok member => stands ▸ upTo.line_le_of_mem member)
      (fun tok member => (stands ▸ onward.le_line member : line + 1 + 1 ≤ tok.span.line))
    rw [tokens, isAfter, first]
    refine ⟨state.newline, back, last, by rw [whole]; simp, onward, ?_⟩
    constructor
    · rw [first]
      exact sees.newline
    · rw [tokens, isBefore]
      exact upTo.nested
    · rfl
    · rfl
    · intro inside
      simp only [ScanState.newline, Bool.and_eq_true] at inside
      constructor
      · rw [tokens, isBefore]
        rcases upTo.directive_of_inDirective inside.1 with found | ⟨-, absurdity⟩
        · exact found
        · cases absurdity
      · exact ⟨front, first, sees.backslash.symm.trans inside.2⟩

theorem StartsAfter.exists_run_until {state final : ScanState} {rest : List Char}
    {passed last : Nat} (starts : StartsAfter text passed state)
    (whole : text.toList = Text.firstLines passed text.toList ++ rest)
    (run : ScanState.Run state rest (tokensAfter (scan text) passed) final [])
    (ordered : passed < last) (less : last < (LineIndex.ofText text).count)
    (within : ∀ tok ∈ scan text, tok.span.line ≤ last → tok.span.endLine ≤ last)
    (incomplete : Bool) :
    ∃ part back stop, rest = part ++ back ∧
      Text.firstLines last text.toList = Text.firstLines passed text.toList ++ part ∧
      ScanState.Run state part (Chunk.tokensOf (scan text) ⟨passed + 1, last, incomplete⟩) stop
        [] := by
  obtain ⟨most, rfl⟩ := Nat.exists_eq_add_of_le' (Nat.zero_lt_of_lt ordered)
  obtain ⟨front, back, cut, first, feeds⟩ :=
    Text.exists_eq_firstLines (LineIndex.lt_count_iff.1 less)
  have inside : Text.firstLines passed text.toList <+: front :=
    Text.firstLines_isPrefix_of_le ⟨'\n' :: back, cut.symm⟩ (by omega)
  obtain ⟨part, joined⟩ := inside
  have left : rest = part ++ '\n' :: back := by
    rw [whole, ← joined, List.append_assoc] at cut
    exact List.append_cancel_left cut
  have number : 1 + (Text.firstLines passed text.toList ++ part).count '\n' = most + 1 := by
    rw [joined, feeds, Nat.add_comm]
  rw [left] at run
  obtain ⟨before, state, after, tokens, upTo, sees, onward⟩ := run.stops starts.sees
    (fun tok member => by rw [number]; exact within tok (mem_tokensAfter.1 member).1)
  have stands : state.line = most + 1 := sees.here.line.trans number
  have isBefore := (tokensUpTo_of_append
    (fun tok member => stands ▸ upTo.line_le_of_mem member)
    (fun tok member => (stands ▸ onward.le_line member : most + 1 + 1 ≤ tok.span.line))).1
  rw [← tokens, tokensUpTo_tokensAfter (scan text) passed (most + 1) incomplete] at isBefore
  obtain ⟨same, eq, runs⟩ := upTo.cut (by decide)
  obtain rfl : part = same := List.append_cancel_right eq
  refine ⟨part ++ ['\n'], back, state.newline, by simp [left], by rw [first, ← joined]; simp, ?_⟩
  have ends := (runs []).append (.step (.newline state []) (.done state.newline []))
  rwa [List.append_nil, List.append_nil, ← isBefore] at ends

end Lines

section Bounds

variable {text : String} {limit : Nat} {bounds : ChunkBounds}
  (isBounds : bounds ∈ chunkBounds (scan text) (LineIndex.ofText text).count limit)
include isBounds

theorem first_last_of_mem_chunkBounds :
    1 ≤ bounds.first ∧ bounds.first ≤ bounds.last ∧
      bounds.last ≤ (LineIndex.ofText text).count := by
  have cover := ChunkBounds.cover_chunkBounds (scan text) (LineIndex.ofText text).count limit
  obtain ⟨index, here⟩ := List.mem_iff_getElem?.1 isBounds
  obtain ⟨positive, ordered, bounded, -⟩ := cover.getElem? here
  exact ⟨positive, ordered, bounded⟩

/-- No token runs into a chunk from the lines before it. -/
theorem endLine_lt_first {tok : Token} (member : tok ∈ scan text)
    (begins : tok.span.line ≤ bounds.first - 1) : tok.span.endLine ≤ bounds.first - 1 := by
  have cover := ChunkBounds.cover_chunkBounds (scan text) (LineIndex.ofText text).count limit
  rcases cover.begins isBounds with first | ⟨-, clean⟩
  · have positive := line_pos_of_mem_scan member
    omega
  · exact endLine_le_of_isCleanLine clean member begins

/-- No brace is open where a chunk begins. -/
theorem nested_before_chunk : Nested 0 (tokensUpTo (scan text) (bounds.first - 1)) 0 := by
  have cover := ChunkBounds.cover_chunkBounds (scan text) (LineIndex.ofText text).count limit
  rcases cover.begins isBounds with first | ⟨-, clean⟩
  · rw [first]
    exact (startsAfter_zero text).nested
  · exact nested_of_isCleanLine clean

theorem exists_run_chunk :
    ∃ state last, StartsAfter text (bounds.first - 1) state ∧
      ScanState.Run state
        (Text.slice text.toList
          ((LineIndex.ofText text).linesRange bounds.first bounds.last).1
          ((LineIndex.ofText text).linesRange bounds.first bounds.last).2)
        (Chunk.tokensOf (scan text) bounds) last [] := by
  have cover := ChunkBounds.cover_chunkBounds (scan text) (LineIndex.ofText text).count limit
  obtain ⟨positive, ordered, bounded⟩ := first_last_of_mem_chunkBounds isBounds
  have less : bounds.first - 1 < (LineIndex.ofText text).count := by omega
  obtain ⟨state, rest, last, whole, run, starts⟩ :=
    exists_run_after (fun tok => endLine_lt_first isBounds) less
  have range := LineIndex.linesRange_eq text.toList positive (Nat.le_trans positive ordered)
  have lines : bounds.first - 1 + 1 = bounds.first := by omega
  rw [LineIndex.ofText, range]
  by_cases final : bounds.last = (LineIndex.ofText text).count
  · have all := tokensAfter_eq text (by omega : bounds.first - 1 ≤ bounds.last) bounds.incomplete
    have nothing : tokensAfter (scan text) bounds.last = [] :=
      tokensAfter_eq_nil (fun tok member => by rw [final]; exact line_le_count_of_mem_scan member)
    rw [nothing, List.append_nil, lines] at all
    have ended : text.toList = Text.firstLines (bounds.first - 1) text.toList ++ (rest ++ []) := by
      rwa [List.append_nil]
    have read := Text.slice_of_append _ rest [] ended
    rw [← whole] at read
    rw [final, LineIndex.ofText, LineIndex.firstLines_count, read, ← all]
    exact ⟨state, last, starts, run⟩
  · have clean := (cover.ends isBounds).resolve_left final
    obtain ⟨part, back, stop, rfl, joined, upTo⟩ := starts.exists_run_until whole run
      (by omega : bounds.first - 1 < bounds.last) (by omega)
      (fun tok => endLine_le_of_isCleanLine clean) bounds.incomplete
    have read := Text.slice_of_append (Text.firstLines (bounds.first - 1) text.toList) part back
      whole
    rw [lines] at upTo
    rw [joined, read]
    exact ⟨state, stop, starts, upTo⟩

end Bounds

namespace Chunk

def tokensIn (source : Source) (chunk : Chunk) : List Token :=
  (scan source.text).filter (fun tok =>
    chunk.startLine ≤ tok.span.line && tok.span.line ≤ chunk.endLine)

/-- Alone, the text of a chunk has the tokens that begin in it, moved to its place.  The
parentheses open around them are not compared. -/
def ReadsAlone (source : Source) (chunk : Chunk) : Prop :=
  (scan chunk.rawText).map (Token.moved
      ⟨(source.lines.linesRange chunk.startLine chunk.endLine).1, chunk.startLine - 1⟩) =
    (chunk.tokensIn source).map (Token.moved .zero)

instance (source : Source) (chunk : Chunk) : Decidable (chunk.ReadsAlone source) :=
  inferInstanceAs (Decidable (_ = _))

/-- A chunk begins with a token of a directive that it does not open. -/
def BeginsInDirective (source : Source) (chunk : Chunk) : Prop :=
  ∃ tok, (chunk.tokensIn source).head? = some tok ∧ tok.directive = true ∧ tok.text ≠ "#"

section Chunks

variable {source : Source} {limit : Nat} {chunk : Chunk}

/-- A chunk is read on its own from where the scanner stands at its first line. -/
theorem exists_run_of_mem (member : chunk ∈ ofSource source (scan source.text) limit) :
    ∃ state last, StartsAfter source.text (chunk.startLine - 1) state ∧
      ScanState.Run state chunk.rawText.toList (chunk.tokensIn source) last [] := by
  obtain ⟨bounds, isBounds, startLine, endLine⟩ := exists_bounds_of_mem member
  obtain ⟨state, last, starts, run⟩ := exists_run_chunk isBounds
  rw [rawText_of_mem member, String.toList_ofList, startLine, endLine, tokensIn, startLine, endLine]
  exact ⟨state, last, starts, run⟩

theorem resumed_of_mem (member : chunk ∈ ofSource source (scan source.text) limit)
    {state : ScanState} (starts : StartsAfter source.text (chunk.startLine - 1) state) :
    ScanState.Resumed
      ⟨(source.lines.linesRange chunk.startLine chunk.endLine).1, chunk.startLine - 1⟩
      .initial state := by
  obtain ⟨bounds, isBounds, startLine, endLine⟩ := exists_bounds_of_mem member
  obtain ⟨positive, ordered, bounded⟩ := first_last_of_mem_chunkBounds isBounds
  have closed := nested_before_chunk isBounds
  rw [startLine] at starts ⊢
  have less : bounds.first - 1 < (LineIndex.ofText source.text).count := by omega
  have proper := LineIndex.lt_count_iff.1 less
  have range := LineIndex.linesRange_eq source.text.toList positive (Nat.le_trans positive ordered)
  constructor
  · rw [endLine, Source.lines, LineIndex.ofText, range]
    exact starts.sees.here.offset.trans (Nat.zero_add _).symm
  · rw [starts.sees.here.line, Text.count_firstLines proper]
    rfl
  · exact starts.nested.unique closed
  · rfl
  · exact starts.lineHasCode
  · rfl
  · rfl
  · exact starts.backslash

/-- A chunk is read alone as in the source unless it begins inside a directive. -/
theorem readsAlone_iff (member : chunk ∈ ofSource source (scan source.text) limit) :
    chunk.ReadsAlone source ↔ ¬ chunk.BeginsInDirective source := by
  obtain ⟨state, last, starts, run⟩ := exists_run_of_mem member
  refine (run.resume_iff (resumed_of_mem member starts)).trans ?_
  constructor
  · rintro opens ⟨tok, first, directive, other⟩
    exact other (opens tok first directive)
  · intro outside tok first directive
    by_contra other
    exact outside ⟨tok, first, directive, other⟩

theorem directiveGoesOn_of_mem (member : chunk ∈ ofSource source (scan source.text) limit)
    (inside : chunk.BeginsInDirective source) :
    DirectiveGoesOn source.text (chunk.startLine - 1) := by
  obtain ⟨state, last, starts, run⟩ := exists_run_of_mem member
  obtain ⟨tok, first, directive, other⟩ := inside
  refine starts.goesOn ?_
  by_contra outside
  rw [Bool.not_eq_true] at outside
  have resumed := resumed_of_mem member starts
  have same := run.scan_moved (resumed.shifted outside)
  exact other ((run.resume_iff resumed).1 same tok first directive)

end Chunks

end Chunk

/-- For a limit of at least one line, no token and no pair of braces is cut.  Each chunk is read
alone as in the source unless it begins inside a directive, which a backslash then continues from
the line before it. -/
theorem chunkSource_readsAlone_iff (source : Source) {limit : Nat} (positive : 1 ≤ limit) :
    ∃ chunks, chunkSource source (scan source.text) limit = .ok chunks ∧
      ∀ chunk ∈ chunks,
        (∀ tok ∈ scan source.text, tok.span.line < chunk.startLine →
          tok.span.endLine < chunk.startLine) ∧
        Nested 0 (tokensUpTo (scan source.text) (chunk.startLine - 1)) 0 ∧
        (chunk.ReadsAlone source ↔ ¬ chunk.BeginsInDirective source) ∧
        (chunk.BeginsInDirective source →
          DirectiveGoesOn source.text (chunk.startLine - 1)) := by
  refine ⟨Chunk.ofSource source (scan source.text) limit, chunkSource_eq source _ positive, ?_⟩
  intro chunk member
  obtain ⟨bounds, isBounds, startLine, -⟩ := Chunk.exists_bounds_of_mem member
  have first := (first_last_of_mem_chunkBounds isBounds).1
  refine ⟨fun tok inText before => ?_, startLine ▸ nested_before_chunk isBounds,
    Chunk.readsAlone_iff member, Chunk.directiveGoesOn_of_mem member⟩
  have ends := endLine_lt_first isBounds inText
  omega

/-- The second line of a definition of two lines is not read alone as in the source. -/
theorem chunkSource_cuts_directive :
    let source := Source.ofText "#define A \\\nint b;\n"
    ∃ chunks, chunkSource source (scan source.text) 1 = .ok chunks ∧
      ∃ chunk ∈ chunks, ¬ chunk.ReadsAlone source := by
  intro source
  refine ⟨_, chunkSource_eq source _ (by decide), ?_⟩
  decide +kernel

/-- One line each of a directive of two lines, of a comment and of a declaration. -/
theorem chunkSource_readsAlone_iff_one_line :
    let source := Source.ofText "#if A \\\r\n\n/* b */ #undef B\nint c;\n"
    1 ≤ 1 ∧ ∃ chunks, chunkSource source (scan source.text) 1 = .ok chunks ∧
      ∀ chunk ∈ chunks, chunk.ReadsAlone source ↔ ¬ chunk.BeginsInDirective source := by
  intro source
  have positive : 1 ≤ 1 := by decide
  obtain ⟨chunks, made, read⟩ := chunkSource_readsAlone_iff source positive
  exact ⟨positive, chunks, made, fun chunk member => (read chunk member).2.2.1⟩

end CSurvey
