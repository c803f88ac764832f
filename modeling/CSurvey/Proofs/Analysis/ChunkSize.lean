import CSurvey.Analysis
import CSurvey.Proofs.Chunk.Functions
import Mathlib.Tactic.TFAE

/-!
# Analyses with different chunk sizes

An analysis depends on the chunks only through the list of its functions.  That
list is the same for all chunk sizes exactly if no directive stands in a header:
a chunk may end after a directive, and then a header above it is never joined to
its body.
-/

namespace CSurvey

/-- Two analyses of a source find the same, but for the chunks in which they find it. -/
structure FileAnalysis.FindsSame (first second : FileAnalysis) : Prop where
  functions : first.functions.map FunctionRecord.forgetChunk =
    second.functions.map FunctionRecord.forgetChunk
  findings : first.findings = second.findings
  advice : first.advice = second.advice
  graph : first.graph.forgetChunks = second.graph.forgetChunks

namespace Analyzer

def findingsOf (analyzer : Analyzer) (source : Source) (records : List FunctionRecord) :
    List Finding :=
  let tokens := significant (scan source.text)
  (records.map (analyzer.score source.chars tokens)).flatMap ScoredFunction.findings ++
    analyzer.risk.evaluate source.chars
      (tokensOutside (records.map FunctionRecord.span) tokens) none

def adviceOf (analyzer : Analyzer) (source : Source) (records : List FunctionRecord) :
    List Advice :=
  let scored := records.map (analyzer.score source.chars (significant (scan source.text)))
  (scored.map ScoredFunction.advice).filter (fun advice => !advice.isEmpty)

/-- The result of analyzing a source in chunks of at least one line. -/
def analysis (analyzer : Analyzer) (source : Source) : FileAnalysis :=
  let chunks := Chunk.ofSource source (scan source.text) analyzer.maxChunkSize
  { source := source.info
    maxChunkSize := analyzer.maxChunkSize
    chunks
    graph := CallGraph.ofChunks chunks
    findings := analyzer.findingsOf source (chunks.flatMap Chunk.functions)
    advice := analyzer.adviceOf source (chunks.flatMap Chunk.functions) }

theorem analyze_eq (analyzer : Analyzer) (source : Source)
    (positive : 1 ≤ analyzer.maxChunkSize) :
    analyzer.analyze source = .ok (analyzer.analysis source) := by
  simp only [analyze, chunkSource_eq source _ positive]
  rfl

theorem findings_analysis (analyzer : Analyzer) (source : Source) :
    (analyzer.analysis source).findings =
      analyzer.findingsOf source (analyzer.analysis source).functions := by
  simp only [analysis, FileAnalysis.functions]

theorem advice_analysis (analyzer : Analyzer) (source : Source) :
    (analyzer.analysis source).advice =
      analyzer.adviceOf source (analyzer.analysis source).functions := by
  simp only [analysis, FileAnalysis.functions]

theorem graph_analysis (analyzer : Analyzer) (source : Source) :
    (analyzer.analysis source).graph = CallGraph.build (analyzer.analysis source).functions := by
  simp only [analysis, FileAnalysis.functions, CallGraph.ofChunks]

section Sizes

variable (source : Source) (risk : RiskTable) (thresholds : Thresholds)

theorem functions_analysis (size : Nat) :
    ((mk size risk thresholds).analysis source).functions.map FunctionRecord.forgetChunk =
      Chunk.definitions source (chunkBounds (scan source.text) source.lines.count size) :=
  Chunk.functions_ofSource source size

theorem findingsOf_forgetChunk (first second : Nat) (records : List FunctionRecord) :
    (mk first risk thresholds).findingsOf source (records.map FunctionRecord.forgetChunk) =
      (mk second risk thresholds).findingsOf source records := by
  simp only [findingsOf, List.map_map]
  rfl

theorem adviceOf_forgetChunk (first second : Nat) (records : List FunctionRecord) :
    (mk first risk thresholds).adviceOf source (records.map FunctionRecord.forgetChunk) =
      (mk second risk thresholds).adviceOf source records := by
  simp only [adviceOf, List.map_map]
  rfl

theorem findsSame_of_functions {first second : Nat}
    (same : ((mk first risk thresholds).analysis source).functions.map
        FunctionRecord.forgetChunk =
      ((mk second risk thresholds).analysis source).functions.map FunctionRecord.forgetChunk) :
    ((mk first risk thresholds).analysis source).FindsSame
      ((mk second risk thresholds).analysis source) where
  functions := same
  findings := by
    rw [findings_analysis, findings_analysis,
      ← findingsOf_forgetChunk source risk thresholds 0 first,
      ← findingsOf_forgetChunk source risk thresholds 0 second, same]
  advice := by
    rw [advice_analysis, advice_analysis, ← adviceOf_forgetChunk source risk thresholds 0 first,
      ← adviceOf_forgetChunk source risk thresholds 0 second, same]
  graph := by
    rw [graph_analysis, graph_analysis, ← CallGraph.build_forgetChunk,
      ← CallGraph.build_forgetChunk, same]

end Sizes

end Analyzer

namespace FunctionRecord

/-- The header begins on a line or before it, and the body after it. -/
def Crosses (record : FunctionRecord) (line : Nat) : Prop :=
  record.span.line ≤ line ∧ line < record.body.line

/-- A directive stands after the first token of the header and before the body. -/
def HasDirectiveInHeader (record : FunctionRecord) (tokens : List Token) : Prop :=
  ∃ tok ∈ tokens, tok.directive = true ∧ record.span.start < tok.span.start ∧
    tok.span.start < record.body.start

/-- Where a record and its body stand. -/
def extent (record : FunctionRecord) : Span × Span :=
  (record.span, record.body)

end FunctionRecord

section Headers

variable {source : Source} {sites : List Site} {record : FunctionRecord} {limit : Nat}

theorem lines_of_mem_extractFunctions {cs : List Char} {tokens : List Token} {chunkId : Nat}
    (member : record ∈ extractFunctions cs tokens chunkId) :
    (∃ tok ∈ tokens, tok.span.line = record.span.line) ∧
      ∃ tok ∈ tokens, tok.span.line = record.body.line := by
  obtain ⟨sites, search⟩ := Sites.exists_sites [] (significant tokens)
  rw [extractFunctions, search.definitionsFrom_eq, List.mem_map] at member
  obtain ⟨site, found, rfl⟩ := member
  exact ⟨⟨site.first, (mem_significant.1 (search.first_mem found)).1,
      ((search.formed found).record_begins cs chunkId).2.symm⟩,
    ⟨site.definition.openBrace, (mem_significant.1 (search.openBrace_mem found)).1, rfl⟩⟩

theorem hasDirectiveInHeader_iff {cs : List Char} {chunkId : Nat}
    (member : record ∈ extractFunctions cs (scan source.text) chunkId) :
    record.HasDirectiveInHeader (scan source.text) ↔
      ∃ line, isCleanLine (scan source.text) line = true ∧ record.Crosses line := by
  obtain ⟨sites, search⟩ := Sites.exists_sites [] (significant (scan source.text))
  rw [extractFunctions, search.definitionsFrom_eq, List.mem_map] at member
  obtain ⟨site, found, rfl⟩ := member
  obtain ⟨start, line⟩ := (search.formed found).record_begins cs chunkId
  rw [FunctionRecord.HasDirectiveInHeader, start]
  unfold FunctionRecord.Crosses
  rw [line]
  constructor
  · rintro ⟨tok, inText, directive, begins, ends⟩
    exact search.exists_crosses_of_directive found inText directive begins ends
  · rintro ⟨line, clean, crosses⟩
    exact search.exists_directive_of_crosses found clean crosses

/-- The definitions of a source are those of all its tokens, as long as no directive stands in a
header. -/
theorem definitions_chunkBounds
    (plain : ∀ record ∈ extractFunctions source.chars (scan source.text) 0,
      ¬ record.HasDirectiveInHeader (scan source.text)) (limit : Nat) :
    Chunk.definitions source (chunkBounds (scan source.text) source.lines.count limit) =
      FunctionRecord.assignOrdinals []
        (extractFunctions source.chars (scan source.text) 0) := by
  obtain ⟨sites, search⟩ := Sites.exists_sites [] (significant (scan source.text))
  have records := search.definitionsFrom_eq source.chars 0
  have apart : ∀ site ∈ sites, ∀ line, isCleanLine (scan source.text) line = true →
      ¬ site.Crosses line := by
    intro site found line clean crosses
    have member : site.record source.chars 0 ∈
        extractFunctions source.chars (scan source.text) 0 := by
      rw [extractFunctions, records]
      exact List.mem_map_of_mem found
    refine plain _ member ((hasDirectiveInHeader_iff member).2 ⟨line, clean, ?_⟩)
    rw [FunctionRecord.Crosses, ((search.formed found).record_begins _ _).2]
    exact crosses
  have cover := ChunkBounds.cover_chunkBounds (scan source.text) source.lines.count limit
  have nothing : tokensUpTo (scan source.text) 0 = [] := by
    refine List.filter_eq_nil_iff.2 (fun tok member => ?_)
    have positive := line_pos_of_mem_scan member
    simp only [decide_eq_true_eq]
    omega
  have whole := tokensUpTo_append_tokensAfter (pairwise_line_scan source.text) 0
  rw [nothing, List.nil_append] at whole
  rw [Chunk.definitions, ChunkBounds.Cover.flatMap_extractFunctions cover (by rw [nothing]; rfl)
    (fun tok member => line_le_count_of_mem_scan member) (by rwa [whole]) apart, extractFunctions,
    records]

theorem lines_of_crosses
    (member : record ∈ extractFunctions source.chars (scan source.text) 0) {line : Nat}
    (crosses : record.Crosses line) : 1 ≤ line ∧ line < source.lines.count := by
  obtain ⟨⟨first, firstIn, firstLine⟩, brace, braceIn, braceLine⟩ :=
    lines_of_mem_extractFunctions member
  have lower := line_pos_of_mem_scan firstIn
  have upper := line_le_count_of_mem_scan braceIn
  rw [firstLine] at lower
  rw [braceLine] at upper
  exact ⟨Nat.le_trans lower crosses.1, Nat.lt_of_lt_of_le crosses.2 upper⟩

theorem not_crosses_of_definitions
    (same : Chunk.definitions source (chunkBounds (scan source.text) source.lines.count 1) =
      FunctionRecord.assignOrdinals []
        (extractFunctions source.chars (scan source.text) 0))
    (member : record ∈ extractFunctions source.chars (scan source.text) 0) {line : Nat}
    (clean : isCleanLine (scan source.text) line = true) : ¬ record.Crosses line := by
  rintro ⟨begins, ends⟩
  have extents := congrArg (List.map FunctionRecord.extent) same
  rw [Chunk.definitions, FunctionRecord.map_assignOrdinals (fun _ _ => rfl),
    FunctionRecord.map_assignOrdinals (fun _ _ => rfl), List.map_flatMap] at extents
  have inChunks : record.extent ∈ _ := List.mem_map_of_mem member
  rw [← extents, List.mem_flatMap] at inChunks
  obtain ⟨bounds, isBounds, found⟩ := inChunks
  obtain ⟨other, otherMember, extent⟩ := List.mem_map.1 found
  obtain ⟨span, body⟩ := Prod.mk.injEq .. ▸ extent
  obtain ⟨⟨first, firstIn, firstLine⟩, brace, braceIn, braceLine⟩ :=
    lines_of_mem_extractFunctions otherMember
  simp only [Chunk.tokensOf, List.mem_filter, Bool.and_eq_true, decide_eq_true_eq]
    at firstIn braceIn
  rw [span] at firstLine
  rw [body] at braceLine
  have lower : bounds.first ≤ line := by omega
  have upper : line < bounds.last := by omega
  cases clean.symm.trans (ChunkBounds.isCleanLine_of_mem_chunkBounds isBounds lower upper)

theorem definitions_whole (positive : 1 ≤ source.lines.count) :
    Chunk.definitions source (chunkBounds (scan source.text) source.lines.count
      (source.lines.count + 1)) =
        FunctionRecord.assignOrdinals []
          (extractFunctions source.chars (scan source.text) 0) := by
  obtain ⟨incomplete, bounds⟩ :
      ∃ incomplete, chunkBounds (scan source.text) source.lines.count (source.lines.count + 1) =
        [⟨1, source.lines.count, incomplete⟩] :=
    ChunkBounds.chunkBounds_of_lt positive (Nat.lt_succ_self _)
  have all : Chunk.tokensOf (scan source.text) ⟨1, source.lines.count, incomplete⟩ =
      scan source.text := by
    refine List.filter_eq_self.2 (fun tok member => ?_)
    have lower := line_pos_of_mem_scan member
    have upper := line_le_count_of_mem_scan member
    rw [Bool.and_eq_true, decide_eq_true_eq, decide_eq_true_eq]
    exact ⟨lower, upper⟩
  rw [Chunk.definitions, bounds, List.flatMap_cons, List.flatMap_nil, List.append_nil, all]

end Headers

/-- For each source, risk table and thresholds these are equivalent: analyses in chunks of
different sizes find the same; no chunk of any size ends between the beginning of a header and its
body; no directive stands between the beginning of a header and its body. -/
theorem analyze_chunkSize_tfae (source : Source) (risk : RiskTable) (thresholds : Thresholds) :
    [∀ a b, 1 ≤ a → 1 ≤ b → ∃ first second,
        (Analyzer.mk a risk thresholds).analyze source = .ok first ∧
        (Analyzer.mk b risk thresholds).analyze source = .ok second ∧ first.FindsSame second,
      ∀ limit chunks, 1 ≤ limit →
        chunkSource source (scan source.text) limit = .ok chunks → ∀ chunk ∈ chunks,
        ∀ record ∈ extractFunctions source.chars (scan source.text) 0,
          ¬ record.Crosses chunk.endLine,
      ∀ record ∈ extractFunctions source.chars (scan source.text) 0,
        ¬ record.HasDirectiveInHeader (scan source.text)].TFAE := by
  tfae_have 1 → 3 := by
    intro same record member directive
    obtain ⟨line, clean, crosses⟩ := (hasDirectiveInHeader_iff member).1 directive
    have lines := lines_of_crosses member crosses
    obtain ⟨first, second, firstMade, secondMade, agree⟩ :=
      same 1 (source.lines.count + 1) (Nat.le_refl 1) (Nat.le_add_left 1 _)
    rw [Analyzer.analyze_eq _ source (Nat.le_refl 1)] at firstMade
    rw [Analyzer.analyze_eq _ source (Nat.le_add_left 1 _)] at secondMade
    obtain rfl := Except.ok.inj firstMade
    obtain rfl := Except.ok.inj secondMade
    have functions := agree.functions
    rw [Analyzer.functions_analysis, Analyzer.functions_analysis,
      definitions_whole (by omega)] at functions
    exact not_crosses_of_definitions functions member clean crosses
  tfae_have 3 → 1 := by
    intro plain a b aPositive bPositive
    refine ⟨_, _, Analyzer.analyze_eq _ source aPositive, Analyzer.analyze_eq _ source bPositive,
      Analyzer.findsSame_of_functions source risk thresholds ?_⟩
    rw [Analyzer.functions_analysis, Analyzer.functions_analysis, definitions_chunkBounds plain,
      definitions_chunkBounds plain]
  tfae_have 3 → 2 := by
    intro plain limit chunks positive made chunk isChunk record member crosses
    rw [chunkSource_eq source _ positive] at made
    obtain rfl := Except.ok.inj made
    obtain ⟨bounds, isBounds, -, endLine⟩ := Chunk.exists_bounds_of_mem isChunk
    rw [endLine] at crosses
    rcases (ChunkBounds.cover_chunkBounds _ _ limit).ends isBounds with last | clean
    · have lines := lines_of_crosses member crosses
      omega
    · exact plain record member ((hasDirectiveInHeader_iff member).2 ⟨_, clean, crosses⟩)
  tfae_have 2 → 3 := by
    intro apart record member directive
    obtain ⟨line, clean, crosses⟩ := (hasDirectiveInHeader_iff member).1 directive
    obtain ⟨lower, upper⟩ := lines_of_crosses member crosses
    obtain ⟨bounds, isBounds, begins, ends⟩ := (ChunkBounds.cover_chunkBounds
      (scan source.text) source.lines.count 1).exists_mem lower (Nat.le_of_lt upper)
    obtain ⟨chunk, isChunk, -, endLine⟩ := Chunk.exists_mem_of_bounds isBounds
    refine apart 1 _ (Nat.le_refl 1) (chunkSource_eq source _ (Nat.le_refl 1)) chunk isChunk
      record member ?_
    by_cases inside : line < bounds.last
    · cases clean.symm.trans (ChunkBounds.isCleanLine_of_mem_chunkBounds isBounds begins inside)
    · have same : bounds.last = line := by omega
      rwa [endLine, same]
  tfae_finish

/-- A parameter under a condition of the preprocessor: the function is found in one chunk of 100
lines and lost in chunks of one line, which end after each directive. -/
theorem analyze_loses_conditional_parameter :
    let source := Source.ofText
      "int f(int a\n#ifdef X\n, int b\n#endif\n)\n\x7b\n  return a;\n\x7d\n"
    ∃ first second,
      (Analyzer.mk 1 RiskTable.builtin Thresholds.standard).analyze source = .ok first ∧
      (Analyzer.mk 100 RiskTable.builtin Thresholds.standard).analyze source = .ok second ∧
      first.functions.map FunctionRecord.name = [] ∧
      second.functions.map FunctionRecord.name = ["f"] ∧ ¬ first.FindsSame second := by
  intro source
  have inLines : ((Analyzer.mk 1 RiskTable.builtin Thresholds.standard).analysis
      source).functions.map FunctionRecord.name = [] := by
    decide +kernel
  have inOne : ((Analyzer.mk 100 RiskTable.builtin Thresholds.standard).analysis
      source).functions.map FunctionRecord.name = ["f"] := by
    decide +kernel
  refine ⟨_, _, Analyzer.analyze_eq _ source (Nat.le_refl 1),
    Analyzer.analyze_eq _ source (by decide), inLines, inOne, fun same => ?_⟩
  have names := congrArg (List.map FunctionRecord.name) same.functions
  have forgets : FunctionRecord.name ∘ FunctionRecord.forgetChunk = FunctionRecord.name := rfl
  rw [List.map_map, List.map_map, forgets, inLines, inOne] at names
  cases names

end CSurvey
