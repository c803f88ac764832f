import CSurvey.Proofs.Chunk.Functions
import CSurvey.Proofs.Token.Matching
import CSurvey.Proofs.Token.Words

/-!
# Texts that end open

A text ends open when a brace, a block comment or a literal is open at its end.  The
chunks of a source take this from the depth after the last line, from the mark of the
last token, and from definitions without closing brace.  The depth is the number of open
braces and such a definition leaves its brace open, so these two agree.  The mark says
that nothing closed the last token, which is also true of a literal that stops before a
line feed, where the text goes on.
-/

namespace CSurvey

namespace Lexeme

theorem blockRest_of_not_closed {cs : List Char} (unclosed : (blockRest cs).2 = false) :
    (blockRest cs).1 = cs := by
  fun_induction blockRest cs with
  | case1 => rfl
  | case2 => cases unclosed
  | case3 c rest _ more closed read ih =>
    rw [read] at ih
    rw [show more = rest from ih unclosed]

theorem after_of_not_closed {c : Char} {rest : List Char} (unclosed : (after c rest).2.2 = false) :
    (after c rest).1.isLiteral = true ∨
      (after c rest).1 = .blockComment ∧ (after c rest).2.1 = rest := by
  unfold after at unclosed ⊢
  split
  · simp_all
  split
  · rename_i notLine block
    rw [if_neg notLine, if_pos block] at unclosed
    have star : rest = '*' :: rest.tail := by
      cases rest with
      | nil => simp at block
      | cons d rest => simp_all
    refine Or.inr ⟨rfl, ?_⟩
    simp only [blockRest_of_not_closed unclosed]
    exact star.symm
  split
  · exact Or.inl rfl
  split
  · exact Or.inl rfl
  · -- what is left is code, which is always closed
    rename_i notLine notBlock notString notChar
    rw [if_neg notLine, if_neg notBlock, if_neg notString, if_neg notChar] at unclosed
    split at unclosed
    · cases unclosed
    split at unclosed
    · cases unclosed
    split at unclosed <;> cases unclosed

end Lexeme

/-- A token that nothing closes is a literal or reaches the end of what is scanned. -/
theorem ScanState.Run.not_terminated {first last : ScanState} {cs passed : List Char}
    {tokens : List Token} (run : Run first cs tokens last []) (here : At passed first) :
    ∀ tok ∈ tokens, tok.terminated = false → tok.kind.isLiteral = true ∨
      tok.kind = .blockComment ∧ tok.span.stop = Text.byteLength (passed ++ cs) := by
  generalize nothing : ([] : List Char) = rest at run
  induction run generalizing passed with
  | done => simp
  | @step first second third cs middle rest front back head tail ih =>
    cases head with
    | newline =>
      have later := ih here.newline nothing
      rwa [List.append_assoc, List.singleton_append] at later
    | gap _ blank =>
      have later := ih (here.gap blank) nothing
      rwa [List.append_assoc, List.singleton_append] at later
    | @token c kind more closed _ solid read =>
      have later := ih ((here.opened c).emit kind (c :: more) closed) nothing
      rw [List.append_assoc, List.cons_append] at later
      refine List.forall_mem_cons.2 ⟨fun unclosed => ?_, later⟩
      have parts (unclosed : (Lexeme.after c (more ++ middle)).2.2 = false) :=
        Lexeme.after_of_not_closed unclosed
      rw [read] at parts
      refine (parts unclosed).imp_right (fun block => ⟨block.1, ?_⟩)
      rw [(here.opened c).emit_span, Span.cover, ← block.2]

section Text

variable {text : String} {tok : Token}

theorem isLiteral_or_stop_of_not_terminated (member : tok ∈ scan text)
    (unclosed : tok.terminated = false) : tok.kind.isLiteral = true ∨
      tok.kind = .blockComment ∧ tok.span.stop = Text.byteLength text.toList := by
  obtain ⟨last, run⟩ := exists_run_scan text
  exact run.not_terminated .initial tok member unclosed

theorem getLast?_scan_of_stop (member : tok ∈ scan text)
    (atEnd : tok.span.stop = Text.byteLength text.toList) : (scan text).getLast? = some tok := by
  obtain ⟨front, back, whole⟩ := List.append_of_mem member
  obtain rfl : back = [] := by
    refine List.eq_nil_iff_forall_not_mem.2 (fun other later => ?_)
    have apart := (layout_scan text).pairwise_stop_le_start
    rw [whole, List.pairwise_append, List.pairwise_cons] at apart
    have inText : other ∈ scan text := by simp [whole, later]
    have after := apart.2.1.1 other later
    have long := start_lt_stop_of_mem_scan inText
    have bounded := stop_le_byteLength_of_mem_scan inText
    omega
  rw [whole, List.getLast?_concat]

theorem isBrace_of_lt_endLine (member : tok ∈ scan text)
    (runsOn : tok.span.line < tok.span.endLine) : tok.isBrace = false := by
  rw [← Bool.not_eq_true]
  intro brace
  have ⟨_, places, _⟩ := scan_tiles_text text
  have ⟨_, _, _, _, _, endLine⟩ := places tok member
  rcases Bool.or_eq_true_iff.1 brace with opening | closing
  · rw [(Token.isPunct_iff.1 opening).2] at endLine
    exact Nat.lt_irrefl _ (endLine ▸ runsOn)
  · rw [(Token.isPunct_iff.1 closing).2] at endLine
    exact Nat.lt_irrefl _ (endLine ▸ runsOn)

variable (text)

/-- The depth after the last line is the number of braces that are open at the end of the text.
Only a token that takes in the last line feed can be left out of it. -/
theorem depth_atLine_count :
    (LineState.atLine (scan text) (LineIndex.ofText text).count).depth =
      (bracesOpen [] (scan text)).length := by
  obtain ⟨last, nested⟩ := nested_scan text
  have depth : (bracesOpen [] (scan text)).length = last :=
    Nested.length_bracesOpen (show Nested ([] : List Token).length (scan text) last from nested)
  generalize inText : (fun tok : Token =>
    decide (tok.span.endLine ≤ (LineIndex.ofText text).count)) = within
  have whole := List.takeWhile_append_dropWhile (p := within) (l := scan text)
  rw [← whole] at nested
  obtain ⟨middle, before, after⟩ := Nested.append_iff.1 nested
  have flat : ∀ tok ∈ (scan text).dropWhile within, tok.isBrace = false := by
    intro tok member
    have inScan : tok ∈ scan text := (List.dropWhile_suffix within).subset member
    refine isBrace_of_lt_endLine inScan ?_
    have bounded := line_le_count_of_mem_scan inScan
    cases rest : (scan text).dropWhile within with
    | nil => simp [rest] at member
    | cons first others =>
      have beyond : (LineIndex.ofText text).count < first.span.endLine := by
        have stops := List.head?_dropWhile_not within (scan text)
        rw [rest] at stops
        simpa [← inText] using stops
      rw [rest] at member
      rcases List.mem_cons.1 member with rfl | later
      · omega
      · have apart := (layout_scan text).pairwise_endLine_le_line
        rw [← whole, rest, List.pairwise_append, List.pairwise_cons] at apart
        have below := apart.2.1.1 tok later
        omega
  rw [depth, ← (after.of_not_isBrace flat).1, LineState.atLine, inText]
  exact (show Nested LineState.initial.depth _ middle from before).depth_foldl

theorem endsOpen_iff : endsOpen (scan text) (LineIndex.ofText text).count = true ↔
    bracesOpen [] (scan text) ≠ [] ∨
      ∃ tok, (scan text).getLast? = some tok ∧ tok.terminated = false := by
  rw [endsOpen, depth_atLine_count, Bool.or_eq_true, decide_eq_true_eq, List.length_pos_iff]
  cases (scan text).getLast? <;> simp

end Text

/-- The text ends inside an open brace, or inside a block comment or a literal that is not closed
and reaches its end. -/
def EndsInside (text : String) : Prop :=
  bracesOpen [] (scan text) ≠ [] ∨
    ∃ tok ∈ scan text, (tok.kind = .blockComment ∨ tok.kind.isLiteral = true) ∧
      tok.terminated = false ∧ tok.span.stop = Text.byteLength text.toList

/-- The last token of the text is a literal that is not closed and stops before the end. -/
def StopsEarly (text : String) : Prop :=
  ∃ tok, (scan text).getLast? = some tok ∧ tok.kind.isLiteral = true ∧ tok.terminated = false ∧
    tok.span.stop < Text.byteLength text.toList

theorem endsOpen_iff_endsInside (text : String) :
    endsOpen (scan text) (LineIndex.ofText text).count = true ↔
      EndsInside text ∨ StopsEarly text := by
  rw [endsOpen_iff]
  constructor
  · rintro (brace | ⟨tok, isLast, unclosed⟩)
    · exact Or.inl (Or.inl brace)
    have member := List.mem_of_getLast? isLast
    rcases isLiteral_or_stop_of_not_terminated member unclosed with literal | ⟨block, atEnd⟩
    · rcases Nat.lt_or_eq_of_le (stop_le_byteLength_of_mem_scan member) with early | atEnd
      · exact Or.inr ⟨tok, isLast, literal, unclosed, early⟩
      · exact Or.inl (Or.inr ⟨tok, member, Or.inr literal, unclosed, atEnd⟩)
    · exact Or.inl (Or.inr ⟨tok, member, Or.inl block, unclosed, atEnd⟩)
  · rintro ((brace | ⟨tok, member, -, unclosed, atEnd⟩) | ⟨tok, isLast, -, unclosed, -⟩)
    · exact Or.inl brace
    · exact Or.inr ⟨tok, getLast?_scan_of_stop member atEnd, unclosed⟩
    · exact Or.inr ⟨tok, isLast, unclosed⟩

theorem incomplete_of_getElem?_boundsOfSizes {openEnd : Bool} {first : Nat} {sizes : List Nat}
    {index : Nat} {bounds : ChunkBounds}
    (here : (boundsOfSizes openEnd first sizes)[index]? = some bounds) :
    bounds.incomplete = true ↔
      index + 1 = (boundsOfSizes openEnd first sizes).length ∧ openEnd = true := by
  induction sizes generalizing first index with
  | nil => simp [boundsOfSizes] at here
  | cons size rest ih =>
    rw [boundsOfSizes] at here ⊢
    cases index with
    | zero =>
      obtain rfl := Option.some.inj here
      cases rest <;> simp [boundsOfSizes]
    | succ index => rw [ih here, List.length_cons, Nat.add_right_cancel_iff]

/-- Numbering definitions closes none of them. -/
theorem any_incomplete_assignOrdinals (before : List String) (records : List FunctionRecord) :
    (FunctionRecord.assignOrdinals before records).any FunctionRecord.incomplete =
      records.any FunctionRecord.incomplete := by
  have marks := FunctionRecord.map_assignOrdinals (fun (_ : FunctionRecord) _ => rfl) before
    records (f := FunctionRecord.incomplete)
  simpa using congrArg (fun flags => flags.any id) marks

namespace Chunk

variable {source : Source} {limit : Nat} {index : Nat} {chunk : Chunk}

theorem bracesOpen_of_incomplete {record : FunctionRecord}
    (member : record ∈ (ofSource source (scan source.text) limit).flatMap functions)
    (incomplete : record.incomplete = true) : bracesOpen [] (scan source.text) ≠ [] := by
  intro closed
  obtain ⟨site, front, back, formed, whole, atEnd, same⟩ := exists_site member
  have unclosed : site.definition.closeBrace = none := by
    have noBrace := congrArg FunctionRecord.incomplete same
    exact Option.isNone_iff_eq_none.1 (noBrace.trans incomplete)
  obtain ⟨last, nested⟩ := nested_scan source.text
  obtain rfl : 0 = last := by
    rw [← Nested.length_bracesOpen (show Nested ([] : List Token).length _ last from nested),
      closed, List.length_nil]
  have nested := nested.significant
  rw [whole, atEnd unclosed, List.append_nil] at nested
  refine formed.closeBrace_ne_none nested (fun tok inside => ?_) unclosed
  have kept : tok ∈ significant (scan source.text) := by simp [whole, Site.tokens, inside]
  exact directive_of_mem_significant kept

/-- The definitions of a chunk that another one follows are closed. -/
theorem last_of_incomplete
    (here : (ofSource source (scan source.text) limit)[index]? = some chunk)
    {record : FunctionRecord} (member : record ∈ chunk.functions)
    (incomplete : record.incomplete = true) :
    index + 1 = (ofSource source (scan source.text) limit).length := by
  obtain ⟨names, bounds, found, -, -, functions⟩ := functions_of_getElem? here
  have cover := ChunkBounds.cover_chunkBounds (scan source.text) source.lines.count limit
  obtain ⟨lower, ordered, -, -, -, following⟩ := cover.getElem? found
  have inside := (List.getElem?_eq_some_iff.1 found).1
  rw [length_ofSource]
  rcases Nat.lt_or_ge (index + 1) (chunkBounds (scan source.text) source.lines.count limit).length
    with more | last
  · have clean := (following _ (List.getElem?_eq_getElem more)).2
    obtain ⟨first, last, isOpen⟩ := bounds
    obtain ⟨passed, rfl⟩ := Nat.exists_eq_add_of_le' lower
    obtain ⟨sites, search⟩ := Sites.exists_sites []
      (significant (tokensOf (scan source.text) ⟨passed + 1, last, isOpen⟩))
    obtain ⟨outside, tiling⟩ := search.exists_tiling
    have forgets := FunctionRecord.map_assignOrdinals
      (fun (_ : FunctionRecord) _ => rfl) names
      (f := FunctionRecord.incomplete)
      (extractFunctions source.chars (tokensOf (scan source.text) ⟨passed + 1, last, isOpen⟩)
        chunk.id)
    rw [← functions, extractFunctions, search.definitionsFrom_eq, List.map_map] at forgets
    have marked : true ∈ chunk.functions.map FunctionRecord.incomplete :=
      List.mem_map.2 ⟨record, member, incomplete⟩
    rw [forgets] at marked
    obtain ⟨site, isSite, unclosed⟩ := List.mem_map.1 marked
    exact absurd (Option.isNone_iff_eq_none.1 unclosed)
      (closeBrace_ne_none_of_clean (Nat.le_of_succ_le ordered) clean tiling isSite)
  · omega

theorem incomplete_of_getElem? {tokens : List Token}
    (here : (ofSource source tokens limit)[index]? = some chunk) :
    ∃ bounds, (chunkBounds tokens source.lines.count limit)[index]? = some bounds ∧
      chunk.incomplete = (bounds.incomplete || chunk.functions.any FunctionRecord.incomplete) := by
  obtain ⟨names, raw, inDrafts, rfl⟩ := exists_of_getElem?_assignOrdinals here
  rw [drafts, List.getElem?_map, List.getElem?_zipIdx, Option.map_map] at inDrafts
  obtain ⟨bounds, found, rfl⟩ := Option.map_eq_some_iff.1 inDrafts
  refine ⟨bounds, found, ?_⟩
  rw [any_incomplete_assignOrdinals]
  rfl

theorem incomplete_iff (here : (ofSource source (scan source.text) limit)[index]? = some chunk) :
    chunk.incomplete = true ↔
      index + 1 = (ofSource source (scan source.text) limit).length ∧
        endsOpen (scan source.text) source.lines.count = true := by
  obtain ⟨bounds, found, marked⟩ := incomplete_of_getElem? here
  have atBounds := incomplete_of_getElem?_boundsOfSizes found
  rw [← chunkBounds, ← length_ofSource] at atBounds
  rw [marked, Bool.or_eq_true, atBounds, or_iff_left_iff_imp]
  intro atFunction
  obtain ⟨record, member, unclosed⟩ := List.any_eq_true.1 atFunction
  have inSource := List.mem_flatMap.2 ⟨chunk, List.mem_of_getElem? here, member⟩
  refine ⟨last_of_incomplete here member unclosed, ?_⟩
  exact (endsOpen_iff _).2 (Or.inl (bracesOpen_of_incomplete inSource unclosed))

theorem exists_last (limit : Nat) {tok : Token} (member : tok ∈ scan source.text) :
    ∃ index chunk, (ofSource source (scan source.text) limit)[index]? = some chunk ∧
      index + 1 = (ofSource source (scan source.text) limit).length := by
  have nonempty : ofSource source (scan source.text) limit ≠ [] := by
    have cover := ChunkBounds.cover_chunkBounds (scan source.text) source.lines.count limit
    rw [← List.length_pos_iff, length_ofSource, List.length_pos_iff, Ne, cover.eq_nil_iff]
    have positive := line_pos_of_mem_scan member
    have bounded : tok.span.line ≤ source.lines.count := line_le_count_of_mem_scan member
    omega
  have positive := List.length_pos_iff.2 nonempty
  refine ⟨_, _, List.getElem?_eq_getElem (Nat.sub_one_lt_of_lt positive), ?_⟩
  omega

end Chunk

/-- For a limit of at least one line, exactly the last chunk of a text that ends inside a brace, a
block comment or a literal is marked as incomplete, if and only if the last token is not a literal
that stops early in a text whose braces are all closed. -/
theorem chunkSource_marks_openEnd_iff (source : Source) {limit : Nat} (positive : 1 ≤ limit) :
    ∃ chunks, chunkSource source (scan source.text) limit = .ok chunks ∧
      ((∀ (index : Nat) (chunk : Chunk), chunks[index]? = some chunk →
          (chunk.incomplete = true ↔ index + 1 = chunks.length ∧ EndsInside source.text)) ↔
        (StopsEarly source.text → bracesOpen [] (scan source.text) ≠ [])) := by
  refine ⟨_, chunkSource_eq source (scan source.text) positive, ?_⟩
  constructor
  · rintro marks ⟨tok, isLast, literal, unclosed, early⟩ closed
    have member := List.mem_of_getLast? isLast
    obtain ⟨index, chunk, here, last⟩ := Chunk.exists_last limit member
    have counts : endsOpen (scan source.text) source.lines.count = true :=
      (endsOpen_iff _).2 (Or.inr ⟨tok, isLast, unclosed⟩)
    have incomplete := (Chunk.incomplete_iff here).2 ⟨last, counts⟩
    rcases ((marks index chunk here).1 incomplete).2 with brace | ⟨other, inText, -, -, atEnd⟩
    · exact brace closed
    · obtain rfl := Option.some.inj (isLast.symm.trans (getLast?_scan_of_stop inText atEnd))
      exact Nat.ne_of_lt early atEnd
  · intro braces index chunk here
    rw [Chunk.incomplete_iff here, and_congr_right_iff]
    intro _
    rw [Source.lines, endsOpen_iff_endsInside]
    exact ⟨fun ends => ends.elim id (fun early => Or.inl (braces early)), Or.inl⟩

/-- A body that is not closed after a literal that stops early: its brace keeps the text open. -/
theorem chunkSource_marks_openEnd_iff_in_body :
    let source := Source.ofText "int a;\nint f() \x7b\n\"x\n"
    1 ≤ 1 ∧ ∃ chunks, chunkSource source (scan source.text) 1 = .ok chunks ∧
      (chunks.map Chunk.incomplete = [false, true] ∧ StopsEarly source.text) ∧
      ∀ (index : Nat) (chunk : Chunk), chunks[index]? = some chunk →
        (chunk.incomplete = true ↔ index + 1 = chunks.length ∧ EndsInside source.text) := by
  intro source
  obtain ⟨chunks, made, marks⟩ := chunkSource_marks_openEnd_iff source (Nat.le_refl 1)
  refine ⟨Nat.le_refl 1, chunks, made, ⟨?_, ?_⟩, marks.2 (fun _ => by decide +kernel)⟩
  · have marked : (chunkSource source (scan source.text) 1).map
        (fun chunks => chunks.map Chunk.incomplete) = .ok [false, true] := by
      decide +kernel
    rw [made] at marked
    exact Except.ok.inj marked
  · exact ⟨(scan source.text).getLastD default, by decide +kernel, by decide +kernel,
      by decide +kernel, by decide +kernel⟩

/-- A literal that stops at the end of its line marks the only chunk, although nothing is open at
the end of the text. -/
theorem chunkSource_marks_stopped_literal :
    let source := Source.ofText "\"a\n"
    ¬ EndsInside source.text ∧
      (chunkSource source (scan source.text) 600).map (fun chunks => chunks.map Chunk.incomplete) =
        .ok [true] := by
  intro source
  have tokens : scan source.text = [⟨.string, "\"a", ⟨0, 2, 1, 1⟩, 0, 0, false, false⟩] := by
    decide +kernel
  refine ⟨?_, by decide +kernel⟩
  rw [EndsInside, tokens]
  decide +kernel

end CSurvey
