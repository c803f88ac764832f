import CSurvey.Proofs.Analysis.Calls
import CSurvey.Proofs.Text.Cut
import CSurvey.Proofs.Wire.RoundTrip
import Mathlib.Data.List.Perm.Subperm

/-!
# The numbers of a source

Whatever is counted in a source is counted by its bytes: lines, tokens, open
braces, functions, calls and what the metrics count.  So if the bytes of a source
can be numbered in words, all numbers of its chunks fit into words.
-/

namespace CSurvey

namespace ScanState

/-- Each brace that is open and each line but the first took a byte to read. -/
structure Small (state : ScanState) : Prop where
  depth : state.depth ≤ state.offset
  line : state.line ≤ state.offset + 1

theorem Small.opened {state : ScanState} (small : state.Small) (c : Char) :
    (state.opened c).Small := by
  unfold ScanState.opened
  split
  · exact ⟨small.depth, small.line⟩
  · exact small

/-- What a token counts took bytes to read, and so did what comes after it. -/
theorem Small.emit {state : ScanState} (small : state.Small) (kind : TokenKind) {c : Char}
    (solid : Lexeme.isSeparator c = false) (more : List Char) (closed : Bool) :
    let emitted := state.emit kind (c :: more) closed
    emitted.2.Small ∧ emitted.1.depth < emitted.1.span.stop ∧
      emitted.1.span.endLine ≤ emitted.1.span.stop := by
  have other : c ≠ '\n' := by
    rintro rfl
    cases solid
  have long := Text.length_le_byteLength more
  have feeds : more.count '\n' ≤ more.length := List.count_le_length
  have positive := c.utf8Size_pos
  have depth := small.depth
  have line := small.line
  simp only [ScanState.emit, List.count_cons_of_ne other, Text.byteLength_cons]
  refine ⟨⟨?_, ?_⟩, ?_, ?_⟩
  · dsimp only
    split
    · omega
    · split <;> omega
  · dsimp only
    omega
  · split <;> omega
  · omega

theorem Run.small {first last : ScanState} {cs rest : List Char} {tokens : List Token}
    (run : Run first cs tokens last rest) (small : first.Small) :
    ∀ tok ∈ tokens, tok.depth < tok.span.stop ∧ tok.span.endLine ≤ tok.span.stop := by
  induction run with
  | done => simp
  | step head tail ih =>
    cases head with
    | newline =>
      exact ih ⟨Nat.le_succ_of_le small.depth, Nat.succ_le_succ small.line⟩
    | gap =>
      exact ih ⟨Nat.le_succ_of_le small.depth, Nat.le_succ_of_le small.line⟩
    | @token c kind more closed rest solid read =>
      obtain ⟨next, bounds⟩ := (small.opened c).emit kind solid more closed
      exact List.forall_mem_cons.2 ⟨bounds, ih next⟩

end ScanState

section Tokens

variable {text : String} {tok : Token}

theorem depth_lt_of_mem_scan (member : tok ∈ scan text) :
    tok.depth < Text.byteLength text.toList ∧ tok.span.endLine ≤ Text.byteLength text.toList := by
  obtain ⟨last, run⟩ := exists_run_scan text
  obtain ⟨depth, endLine⟩ := run.small ⟨Nat.le_refl 0, Nat.le_refl 1⟩ tok member
  have ends := stop_le_byteLength_of_mem_scan member
  omega

theorem inWords_of_mem_scan (fits : Text.byteLength text.toList < wordSize)
    (member : tok ∈ scan text) : tok.span.InWords := by
  have ends := stop_le_byteLength_of_mem_scan member
  have begins := start_lt_stop_of_mem_scan member
  have lines := line_le_endLine_of_mem_scan member
  have endLine := (depth_lt_of_mem_scan member).2
  constructor <;> omega

end Tokens

section Texts

theorem countP_splitWhere_le (cut test : Char → Bool) (cs : List Char) :
    (Text.splitWhere cut cs).countP (fun piece => piece.any test) ≤ cs.length := by
  induction cs with
  | nil => simp [Text.splitWhere]
  | cons c rest ih =>
    rw [Text.splitWhere, List.length_cons]
    split
    · rw [List.countP_cons_of_neg (by simp)]
      omega
    · split
      · have one : [[c]].countP (fun piece => piece.any test) ≤ 1 := List.countP_le_length
        omega
      · rename_i piece pieces divided
        rw [divided, List.countP_cons] at ih
        rw [List.countP_cons]
        split <;> omega

theorem length_takeBytes_le (count : Nat) (cs : List Char) :
    (Text.takeBytes count cs).length ≤ cs.length := by
  induction cs generalizing count with
  | nil => simp [Text.takeBytes]
  | cons c rest ih =>
    rw [Text.takeBytes]
    split
    · exact Nat.zero_le _
    · exact Nat.succ_le_succ (ih _)

theorem length_dropBytes_le (count : Nat) (cs : List Char) :
    (Text.dropBytes count cs).length ≤ cs.length := by
  induction cs generalizing count with
  | nil => simp [Text.dropBytes]
  | cons c rest ih =>
    rw [Text.dropBytes]
    split
    · exact Nat.le_refl _
    · exact Nat.le_succ_of_le (ih _)

theorem nonBlankLines_slice_le (cs : List Char) (start stop : Nat) :
    Text.nonBlankLines (Text.slice cs start stop) ≤ Text.byteLength cs := by
  have lines := countP_splitWhere_le (· == '\n') (fun c => !Text.isBlank c)
    (Text.slice cs start stop)
  have taken := length_takeBytes_le (stop - start) (Text.dropBytes start cs)
  have dropped := length_dropBytes_le start cs
  have long := Text.length_le_byteLength cs
  simp only [Text.nonBlankLines, Text.slice] at lines ⊢
  omega

theorem LineIndex.count_le (cs : List Char) : (ofChars cs).count ≤ Text.byteLength cs := by
  by_contra more
  have proper := lt_count_iff.1 (Nat.lt_of_not_le more)
  have feeds := Text.count_firstLines proper
  have shorter : (Text.firstLines (Text.byteLength cs) cs).length < cs.length := by
    obtain ⟨rest, whole⟩ := Text.firstLines_isPrefix (Text.byteLength cs) cs
    have lengths := congrArg List.length whole
    rw [List.length_append] at lengths
    have left : rest ≠ [] := by
      rintro rfl
      exact proper (by rwa [List.append_nil] at whole)
    have positive := List.length_pos_iff.2 left
    omega
  have few : (Text.firstLines (Text.byteLength cs) cs).count '\n' ≤ _ := List.count_le_length
  have long := Text.length_le_byteLength cs
  omega

end Texts

section Measures

theorem topLevelCommas_le (nested : Nat) (tokens : List Token) :
    topLevelCommas nested tokens ≤ tokens.length := by
  fun_induction topLevelCommas nested tokens <;> simp only [List.length_nil, List.length_cons] <;>
    omega

theorem countParameters_le (params : List Token) : countParameters params ≤ params.length + 1 := by
  have commas := topLevelCommas_le 0 (params.filter Token.isCode)
  have code := List.length_filter_le Token.isCode params
  unfold countParameters
  dsimp only
  split <;> omega

namespace Metrics

/-- No count exceeds a bound, nor does any before so many more tokens are measured. -/
structure Below (bound left : Nat) (metrics : Metrics) : Prop where
  branchCount : metrics.branchCount + left ≤ bound
  loopCount : metrics.loopCount + left ≤ bound
  cyclomatic : metrics.cyclomatic + left ≤ bound
  maxNestingDepth : metrics.maxNestingDepth ≤ bound
  lineCount : metrics.lineCount ≤ bound
  parameterCount : metrics.parameterCount ≤ bound

variable {bound left depth : Nat} {progress : Progress} {tok : Token}

theorem Below.weaken {metrics : Metrics} (below : metrics.Below bound (left + 1)) :
    metrics.Below bound left :=
  ⟨Nat.le_of_succ_le below.branchCount, Nat.le_of_succ_le below.loopCount,
    Nat.le_of_succ_le below.cyclomatic, below.maxNestingDepth, below.lineCount,
    below.parameterCount⟩

/-- A token adds one to each count at most. -/
theorem Below.count (below : progress.metrics.Below bound (left + 1))
    (shallow : tok.depth + 1 - depth ≤ bound) :
    (progress.count depth tok).metrics.Below bound left := by
  have same := below.weaken
  obtain ⟨branches, loops, cyclomatic, nesting, lines, parameters⟩ := below
  unfold Progress.count Progress.addLoop Progress.addBranch Progress.addDecision
  split_ifs <;> try exact same
  all_goals constructor <;> dsimp only <;> omega

theorem Below.step (below : progress.metrics.Below bound (left + 1))
    (shallow : tok.depth + 1 - depth ≤ bound) :
    (progress.step depth tok).metrics.Below bound left := by
  unfold Progress.step
  split
  · exact below.count shallow
  · exact below.weaken

theorem Below.foldl {tokens : List Token} (below : progress.metrics.Below bound tokens.length)
    (shallow : ∀ tok ∈ tokens, tok.depth + 1 - depth ≤ bound) :
    (tokens.foldl (Progress.step depth) progress).metrics.Below bound 0 := by
  induction tokens generalizing progress with
  | nil => exact below
  | cons tok rest ih =>
    obtain ⟨here, shallow⟩ := List.forall_mem_cons.1 shallow
    exact ih (below.step here) shallow

/-- The metrics of a body exceed neither its tokens, nor those of its header, nor its lines. -/
theorem below_measure (depth : Nat) {body params : List Token} {text : List Char}
    (tokens : body.length + params.length + 1 ≤ bound) (lines : Text.nonBlankLines text ≤ bound)
    (shallow : ∀ tok ∈ body, tok.depth + 1 - depth ≤ bound) :
    (measure body depth params text).Below bound 0 := by
  have parameters := countParameters_le params
  refine Below.foldl ?_ shallow
  constructor <;> simp only [zero] <;> omega

end Metrics

end Measures

section Sites

variable {site : Site}

theorem Site.lastToken_mem (site : Site) : site.definition.lastToken ∈ site.tokens := by
  rw [Site.tokens_eq, Definition.lastToken, Definition.bodyTokens]
  cases site.definition.closeBrace with
  | some brace => simp
  | none =>
    rw [Option.getD_none]
    cases last : site.definition.inner.getLast? with
    | none => simp [List.getLastD_eq_getLast?, last]
    | some tok =>
      have inside := List.mem_of_getLast? last
      simp [List.getLastD_eq_getLast?, last, inside]

theorem Site.length_le_tokens (site : Site) :
    site.definition.inner.length + site.definition.params.length + 1 ≤ site.tokens.length := by
  rw [Site.tokens_eq, Definition.bodyTokens, Site.headerTokens, Definition.header]
  simp only [List.length_append, List.length_cons]
  omega

variable {text : String} {front back : List Token}
  (whole : significant (scan text) = front ++ (site.tokens ++ back))
include whole

theorem Site.mem_scan_of_mem_tokens {tok : Token} (inSite : tok ∈ site.tokens) :
    tok ∈ scan text := by
  refine (mem_significant.1 ?_).1
  rw [whole]
  exact List.mem_append_right _ (List.mem_append_left _ inSite)

theorem Site.length_tokens_le : site.tokens.length ≤ Text.byteLength text.toList := by
  have few := length_scan_le text
  have kept : (significant (scan text)).length ≤ (scan text).length := List.length_filter_le ..
  rw [whole, List.length_append, List.length_append] at kept
  omega

theorem Site.below_measure (start stop : Nat) :
    (measure site.definition.inner (site.definition.openBrace.depth + 1) site.definition.params
      (Text.slice text.toList start stop)).Below (Text.byteLength text.toList) 0 := by
  refine Metrics.below_measure _ (Nat.le_trans site.length_le_tokens (length_tokens_le whole))
    (nonBlankLines_slice_le ..) ?_
  intro tok inBody
  have inSite : tok ∈ site.tokens := by
    rw [Site.tokens_eq, Definition.bodyTokens]
    simp [inBody]
  have shallow := (depth_lt_of_mem_scan (mem_scan_of_mem_tokens whole inSite)).1
  omega

theorem Site.ending_lt (fits : Text.byteLength text.toList < wordSize) :
    (site.definition.ending text.toList).1 < wordSize ∧
      (site.definition.ending text.toList).2 < wordSize := by
  rw [Definition.ending]
  cases brace : site.definition.closeBrace with
  | some close =>
    have inSite : close ∈ site.tokens := by
      rw [Site.tokens_eq, Definition.bodyTokens, brace]
      simp
    have closing := inWords_of_mem_scan fits (mem_scan_of_mem_tokens whole inSite)
    exact ⟨closing.stop, closing.endLine⟩
  | none =>
    have last := inWords_of_mem_scan fits (mem_scan_of_mem_tokens whole site.lastToken_mem)
    exact ⟨fits, last.endLine⟩

end Sites

namespace Chunk

section Function

variable {source : Source} {limit : Nat} {record : FunctionRecord}
  (fits : source.size < wordSize)
  (member : record ∈ (ofSource source (scan source.text) limit).flatMap functions)

include member

theorem ordinal_le : record.ordinal ≤
    ((ofSource source (scan source.text) limit).flatMap functions).length := by
  have ordinals := map_ordinal_functions source limit record.name
  have own : record.ordinal ∈ (((ofSource source (scan source.text) limit).flatMap
      functions).filter (fun other => other.name == record.name)).map FunctionRecord.ordinal :=
    List.mem_map_of_mem (List.mem_filter.2 ⟨member, beq_self_eq_true _⟩)
  rw [ordinals, List.mem_range'_1] at own
  have fewer := List.countP_le_length (p := fun other => other.name == record.name)
    (l := (ofSource source (scan source.text) limit).flatMap functions)
  omega

theorem span_start_lt : record.span.start < source.size := by
  obtain ⟨site, front, back, formed, whole, -, same⟩ := exists_site member
  have first := Site.mem_scan_of_mem_tokens whole site.first_mem_tokens
  have begins := start_lt_stop_of_mem_scan first
  have ends := stop_le_byteLength_of_mem_scan first
  have span : record.span.start = site.first.span.start := by
    have eq := congrArg (fun record => record.span.start) same
    rw [formed.record_eq] at eq
    exact eq.symm
  rw [span, Source.size]
  omega

theorem callCount_le : record.metrics.callCount ≤ source.size := by
  rw [callCount_eq member]
  exact Nat.le_trans List.countP_le_length (length_callSites_le source.text)

include fits

theorem inWords_calls : record.calls.InWords := by
  intro entry isEntry
  have part := List.le_sum_of_mem (List.mem_map_of_mem (f := (·.2)) isEntry)
  have all := callCount_le member
  rw [callCount_eq member, ← sum_calls member] at all
  exact Nat.lt_of_le_of_lt (Nat.le_trans part all) fits

theorem inWords_function :
    record.span.InWords ∧ record.body.InWords ∧ record.metrics.InWords := by
  obtain ⟨site, front, back, formed, whole, -, same⟩ := exists_site member
  have first := inWords_of_mem_scan fits (Site.mem_scan_of_mem_tokens whole site.first_mem_tokens)
  have opening := inWords_of_mem_scan fits (Site.mem_scan_of_mem_tokens whole
    (by rw [Site.tokens_eq]; simp : site.definition.openBrace ∈ site.tokens))
  have ending := Site.ending_lt whole fits
  have below := Site.below_measure whole site.definition.openBrace.span.start
    (site.definition.ending source.chars).1
  rw [formed.record_eq] at same
  have span := congrArg FunctionRecord.span same
  have body := congrArg FunctionRecord.body same
  have metrics := congrArg FunctionRecord.metrics same
  change _ = record.span at span
  change _ = record.body at body
  change _ = record.metrics at metrics
  have calls : record.metrics.callCount < wordSize :=
    Nat.lt_of_le_of_lt (callCount_le member) fits
  rw [← metrics] at calls
  rw [← span, ← body, ← metrics]
  refine ⟨⟨first.start, ending.1, first.line, ending.2⟩,
    ⟨opening.start, ending.1, opening.line, ending.2⟩, ?_⟩
  have within {count : Nat} (bounded : count ≤ Text.byteLength source.text.toList) :
      count < wordSize := Nat.lt_of_le_of_lt bounded fits
  exact
    { branchCount := within below.branchCount
      loopCount := within below.loopCount
      maxNestingDepth := within below.maxNestingDepth
      lineCount := within below.lineCount
      parameterCount := within below.parameterCount
      callCount := calls
      cyclomatic := within below.cyclomatic }

end Function

variable {source : Source} {limit : Nat}

/-- Each function begins at a byte of its own. -/
theorem length_functions_le (source : Source) (limit : Nat) :
    ((ofSource source (scan source.text) limit).flatMap functions).length ≤ source.size := by
  have starts : (((ofSource source (scan source.text) limit).flatMap functions).map
      (fun record => record.span.start)).Nodup := by
    refine List.pairwise_map.2 ((pairwise_functions source limit).imp ?_)
    exact fun before => Nat.ne_of_lt before.1
  have bytes : ((ofSource source (scan source.text) limit).flatMap functions).map
      (fun record => record.span.start) ⊆ List.range source.size := by
    intro start inStarts
    obtain ⟨record, member, rfl⟩ := List.mem_map.1 inStarts
    exact List.mem_range.2 (span_start_lt member)
  simpa using (List.Nodup.subperm starts bytes).length_le

theorem sizes_of_getElem? {tokens : List Token} {index : Nat} {chunk : Chunk}
    (here : (ofSource source tokens limit)[index]? = some chunk) :
    chunk.lineCount = chunk.endLine - chunk.startLine + 1 ∧
      chunk.byteLength = (source.lines.linesRange chunk.startLine chunk.endLine).2 -
        (source.lines.linesRange chunk.startLine chunk.endLine).1 := by
  obtain ⟨names, raw, inDrafts, rfl⟩ := exists_of_getElem?_assignOrdinals here
  rw [drafts, List.getElem?_map, List.getElem?_zipIdx, Option.map_map] at inDrafts
  obtain ⟨bounds, -, rfl⟩ := Option.map_eq_some_iff.1 inDrafts
  exact ⟨rfl, rfl⟩

theorem inWords_of_mem {chunk : Chunk}
    (member : chunk ∈ ofSource source (scan source.text) limit) (fits : source.size < wordSize) :
    chunk.InWords := by
  obtain ⟨index, here⟩ := List.mem_iff_getElem?.1 member
  obtain ⟨bounds, sites, outside, found, startLine, endLine, -, length, records⟩ :=
    exists_sites_of_getElem? here
  have cover := ChunkBounds.cover_chunkBounds (scan source.text) source.lines.count limit
  obtain ⟨positive, ordered, bounded, -⟩ := cover.getElem? found
  have own := cover.index_le found
  have lines : source.lines.count ≤ source.size := LineIndex.count_le source.text.toList
  have number := (lines_of_getElem? here).1
  obtain ⟨lineCount, byteLength⟩ := sizes_of_getElem? here
  have bytes := Text.byteLength_le_of_isPrefix
    (Text.firstLines_isPrefix chunk.endLine source.chars)
  rw [linesRange_of_getElem? here] at byteLength
  constructor
  case functions =>
    intro record inChunk
    have inAll := List.mem_flatMap.2 ⟨chunk, member, inChunk⟩
    obtain ⟨place, there⟩ := List.mem_iff_getElem?.1 inChunk
    obtain ⟨site, -, chunkId, -⟩ := records place record there
    have ordinal := ordinal_le inAll
    have few := length_functions_le source limit
    obtain ⟨span, body, metrics⟩ := inWords_function fits inAll
    exact ⟨by omega, by omega, span, body, inWords_calls fits inAll, metrics⟩
  case byteLength =>
    rw [Source.size] at fits
    dsimp only at byteLength
    rw [Source.chars] at bytes byteLength
    omega
  all_goals omega

end Chunk

end CSurvey
