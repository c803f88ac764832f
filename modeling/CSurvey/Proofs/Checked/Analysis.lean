import CSurvey.Proofs.Analysis.Attribution
import CSurvey.Proofs.Checked.Body
import CSurvey.Proofs.Checked.Definition
import CSurvey.Proofs.Checked.Plan
import CSurvey.Proofs.Checked.Risk
import CSurvey.Proofs.Checked.Scan
import CSurvey.Proofs.Chunk.Cuts

/-!
# Analysis by position

A chunk is cut out of the text at the starts of lines, and out of the tokens at
the first one on its lines and the first one after them.

The whole analysis is made of checked operations.  It gives what the analysis gives,
so no text, however malformed, makes it slip.
-/

namespace CSurvey

namespace Checked

/-- The bytes of a line; the empty range at the end of the text when there is no such line. -/
def lineRange (lines : LineIndex) (line : Nat) : Checked (Nat × Nat) :=
  if line = 0 ∨ lines.count < line then .ok (lines.size, lines.size)
  else do
    let start ← item lines.starts (← minus line 1)
    return (start, lines.starts[line]?.getD lines.size)

/-- The bytes of the lines `first` to `last`. -/
def linesRange (lines : LineIndex) (first last : Nat) : Checked (Nat × Nat) := do
  return ((← lineRange lines first).1, (← lineRange lines last).2)

/-- The tokens that begin on the lines of a chunk, among tokens in the order of their lines. -/
def tokensOf (tokens : List Token) (bounds : ChunkBounds) : Checked (List Token) :=
  part tokens (tokens.takeWhile (fun tok => tok.span.line < bounds.first)).length
    (tokens.takeWhile (fun tok => tok.span.line ≤ bounds.last)).length

/-- The chunk with the given number and bounds. -/
def chunkOf (cs : List Char) (lines : LineIndex) (tokens : List Token) (limit id : Nat)
    (bounds : ChunkBounds) : Checked Chunk := do
  let functions ← extractFunctions cs (← tokensOf tokens bounds) id
  let range ← linesRange lines bounds.first bounds.last
  let lineCount := (← minus bounds.last bounds.first) + 1
  let text ← cut cs range.1 range.2
  return {
    id
    startLine := bounds.first
    endLine := bounds.last
    lineCount
    byteLength := range.2 - range.1
    rawText := String.ofList text
    incomplete := bounds.incomplete || functions.any FunctionRecord.incomplete
    oversized := limit < lineCount
    functions }

/-- The chunks of a source, numbered from 1, with the ordinals of their functions. -/
def chunkSource (source : Source) (tokens : List Token) (limit : Nat) :
    Checked (Except Fault (List Chunk)) := do
  match ← planChunks tokens source.lines.count limit with
  | .error fault => return .error fault
  | .ok bounds =>
    let chunks ← each (fun (bounds, index) =>
      chunkOf source.chars source.lines tokens limit (index + 1) bounds) bounds.zipIdx
    return .ok (Chunk.assignOrdinals [] chunks)

theorem lineRange_eq (lines : LineIndex) (line : Nat) :
    lineRange lines line = .ok (lines.lineRange line) := by
  cases line with
  | zero => rfl
  | succ before =>
    rw [lineRange, LineIndex.lineRange]
    by_cases beyond : lines.count < before + 1
    · have nothing : lines.starts[before]? = none :=
        List.getElem?_eq_none (Nat.le_of_lt_succ beyond)
      rw [if_pos (Or.inr beyond), nothing]
    · have inside : before < lines.starts.length := Nat.lt_of_not_le (fun le => beyond
        (Nat.lt_succ_of_le le))
      have here := List.getElem?_eq_getElem inside
      rw [if_neg (by simp [beyond]), minus_eq_ok (by omega), ok_bind, Nat.add_sub_cancel,
        item_eq_ok here, here]
      rfl

theorem linesRange_eq (lines : LineIndex) (first last : Nat) :
    linesRange lines first last = .ok (lines.linesRange first last) := by
  rw [linesRange, lineRange_eq, lineRange_eq]
  rfl

theorem takeWhile_line (text : String) (line : Nat) :
    (CSurvey.scan text).takeWhile (fun tok => tok.span.line ≤ line) =
      tokensUpTo (CSurvey.scan text) line := by
  simpa only [Nat.lt_succ_iff, tokensUpTo] using
    takeWhile_eq_filter (pairwise_line_scan text) (line + 1)

theorem tokensOf_scan (text : String) {bounds : ChunkBounds} (positive : 1 ≤ bounds.first)
    (ordered : bounds.first ≤ bounds.last) :
    tokensOf (CSurvey.scan text) bounds = .ok (Chunk.tokensOf (CSurvey.scan text) bounds) := by
  obtain ⟨first, last, incomplete⟩ := bounds
  obtain ⟨passed, rfl⟩ := Nat.exists_eq_add_of_le' positive
  dsimp only at ordered
  have split := tokensUpTo_append_tokensOf text (Nat.le_of_succ_le ordered) incomplete
  have whole := tokensUpTo_append_tokensAfter (pairwise_line_scan text) last
  rw [← split, List.append_assoc] at whole
  simp only [tokensOf, Nat.lt_succ_iff, takeWhile_line]
  have middle := part_middle (tokensUpTo (CSurvey.scan text) passed)
    (Chunk.tokensOf (CSurvey.scan text) ⟨passed + 1, last, incomplete⟩)
    (tokensAfter (CSurvey.scan text) last)
  rwa [whole, ← List.length_append, split] at middle

theorem cut_linesRange (cs : List Char) {first last : Nat} (positive : 1 ≤ first)
    (ordered : first ≤ last) :
    cut cs ((LineIndex.ofChars cs).linesRange first last).1
        ((LineIndex.ofChars cs).linesRange first last).2 =
      .ok (Text.slice cs ((LineIndex.ofChars cs).linesRange first last).1
        ((LineIndex.ofChars cs).linesRange first last).2) := by
  have boundary (count : Nat) :
      Text.IsBoundary cs (Text.byteLength (Text.firstLines count cs)) := by
    obtain ⟨back, eq⟩ := Text.firstLines_isPrefix count cs
    exact ⟨_, back, eq.symm, rfl⟩
  rw [LineIndex.linesRange_eq cs positive (Nat.le_trans positive ordered)]
  refine cut_eq_ok (Text.byteLength_le_of_isPrefix ?_) (boundary _) (boundary _)
  exact Text.firstLines_isPrefix_firstLines cs (by omega)

theorem chunkOf_eq (text : String) (limit id : Nat) {bounds : ChunkBounds}
    (positive : 1 ≤ bounds.first) (ordered : bounds.first ≤ bounds.last) :
    chunkOf text.toList (LineIndex.ofText text) (CSurvey.scan text) limit id bounds =
      .ok (Chunk.ofBounds text.toList (LineIndex.ofText text) (CSurvey.scan text) limit id
        bounds) := by
  have laid : Laid text.toList (Chunk.tokensOf (CSurvey.scan text) bounds) :=
    (laid_scan text).sublist (List.filter_sublist ..)
  rw [chunkOf, tokensOf_scan text positive ordered, ok_bind, extractFunctions_eq laid, ok_bind,
    linesRange_eq, ok_bind, minus_eq_ok ordered, ok_bind, LineIndex.ofText,
    cut_linesRange text.toList positive ordered]
  rfl

theorem chunkSource_eq (source : Source) (limit : Nat) :
    chunkSource source (CSurvey.scan source.text) limit =
      .ok (CSurvey.chunkSource source (CSurvey.scan source.text) limit) := by
  have positive : ∀ tok ∈ CSurvey.scan source.text, 1 ≤ tok.span.endLine := fun tok member =>
    Nat.le_trans (line_pos_of_mem_scan member) (line_le_endLine_of_mem_scan member)
  have sorted : (CSurvey.scan source.text).Pairwise
      (fun first second => first.span.endLine ≤ second.span.endLine) := by
    refine (layout_scan source.text).pairwise_endLine_le_line.imp_of_mem ?_
    intro first second _ member apart
    exact Nat.le_trans apart (line_le_endLine_of_mem_scan member)
  rw [chunkSource, planChunks_eq positive sorted, ok_bind, CSurvey.chunkSource,
    CSurvey.planChunks]
  by_cases zero : limit = 0
  · rw [if_pos zero]
    rfl
  have made : ∀ entry ∈ (chunkBounds (CSurvey.scan source.text) source.lines.count limit).zipIdx,
      chunkOf source.chars source.lines (CSurvey.scan source.text) limit (entry.2 + 1) entry.1 =
        .ok (Chunk.ofBounds source.chars source.lines (CSurvey.scan source.text) limit (entry.2 + 1)
          entry.1) := by
    intro entry member
    have here := List.mem_zipIdx_iff_getElem?.1 member
    obtain ⟨first, ordered, -⟩ := (ChunkBounds.cover_chunkBounds _ _ _).getElem? here
    exact chunkOf_eq source.text limit _ first ordered
  rw [if_neg zero]
  simp only [each_eq_ok made, ok_bind]
  rfl

/-- The tokens that begin inside a span, among tokens in the order of the text. -/
def tokensWithin (tokens : List Token) (span : Span) : Checked (List Token) :=
  let low := (tokens.takeWhile (fun tok => tok.span.start < span.start)).length
  let high := (tokens.takeWhile (fun tok => tok.span.start < span.stop)).length
  part tokens low (max high low)

/-- The tokens that begin outside all spans, which are disjoint and in order; the spans before
`position` end before all the tokens. -/
def tokensOutside (spans : List Span) : (position : Nat) → List Token → Checked (List Token)
  | _, [] => .ok []
  | position, tok :: rest => do
    let ahead ← pass spans (fun span => span.stop ≤ tok.span.start) spans.length position
    let others ← tokensOutside spans ahead rest
    if ahead < spans.length then
      let span ← item spans ahead
      return if span.start ≤ tok.span.start then others else tok :: others
    else return tok :: others

/-- Score the body of a function among the significant tokens of the text `cs`. -/
def score (analyzer : Analyzer) (cs : List Char) (tokens : List Token) (record : FunctionRecord) :
    Checked ScoredFunction := do
  let body ← tokensWithin tokens record.body
  let findings ← evaluate analyzer.risk cs body (some record.key)
  let signals ← collectSignals body
  return {
    findings
    signals
    advice := Advice.advise ⟨record.key, record.metrics, findings, signals⟩ analyzer.thresholds }

def analyze (analyzer : Analyzer) (source : Source) : Checked (Except Fault FileAnalysis) := do
  if analyzer.maxChunkSize = 0 then return .error (.argument .zeroChunkSize)
  let cs := source.chars
  let tokens ← scan source.text
  match ← chunkSource source tokens analyzer.maxChunkSize with
  | .error fault => return .error fault
  | .ok chunks =>
    let body := significant tokens
    let records := chunks.flatMap Chunk.functions
    let scored ← each (score analyzer cs body) records
    let residual ← tokensOutside (records.map FunctionRecord.span) 0 body
    let outside ← evaluate analyzer.risk cs residual none
    return .ok {
      source := source.info
      maxChunkSize := analyzer.maxChunkSize
      chunks
      graph := CallGraph.ofChunks chunks
      findings := scored.flatMap ScoredFunction.findings ++ outside
      advice := (scored.map ScoredFunction.advice).filter (fun advice => !advice.isEmpty) }

def pickRecord (text : String) (tokens : List Token) (name : Option String) :
    Checked FunctionRecord := do
  let records := FunctionRecord.assignOrdinals [] (← extractFunctions text.toList tokens 0)
  let named := name.bind (fun name => records.findIdx? (fun record => record.name == name))
  if records.isEmpty then fragmentRecord (name.getD Analyzer.fragmentName) text tokens
  else item records (named.getD 0)

def analyzeFunction (analyzer : Analyzer) (text : String) (name : Option String) :
    Checked FunctionAnalysis :=
  if text.toList.all Text.isBlank then
    .ok {
      record := none
      findings := []
      signals := default
      purposeHints := []
      errorHandling := []
      complexityLevel := "low"
      riskLevel := none
      advice := Advice.advise ⟨name.getD Analyzer.fragmentName, Metrics.zero, [], default⟩
        analyzer.thresholds }
  else do
    let tokens ← scan text
    let record ← pickRecord text tokens name
    let scored ← score analyzer text.toList (significant tokens) record
    return {
      record := some record
      findings := scored.findings
      signals := scored.signals
      purposeHints := NameHints.purposes record.name
      errorHandling := scored.signals.errorHandling
      complexityLevel := record.metrics.level
      riskLevel := RiskSummary.worst? scored.findings
      advice := scored.advice }

theorem tokensWithin_eq {tokens : List Token}
    (sorted : tokens.Pairwise (fun first second => first.span.start ≤ second.span.start))
    (span : Span) : tokensWithin tokens span = .ok (CSurvey.tokensWithin tokens span) :=
  part_sorted sorted span.start span.stop

theorem tokensOutside_eq {spans before ahead : List Span} (whole : spans = before ++ ahead)
    (tokens : List Token) :
    tokensOutside spans before.length tokens = .ok (CSurvey.tokensOutside ahead tokens) := by
  induction tokens generalizing before ahead with
  | nil => rfl
  | cons tok rest ih =>
    have short : ahead.length ≤ spans.length := by simp [whole]
    have passed := pass_eq_ok (fun span => decide (span.stop ≤ tok.span.start)) whole short
    have parts : spans = (before ++ ahead.takeWhile (fun span => span.stop ≤ tok.span.start)) ++
        ahead.dropWhile (fun span => span.stop ≤ tok.span.start) := by
      rw [List.append_assoc, List.takeWhile_append_dropWhile, whole]
    have later := ih parts
    rw [List.length_append] at later
    simp only [tokensOutside, passed, later, ok_bind, CSurvey.tokensOutside]
    cases left : ahead.dropWhile (fun span => span.stop ≤ tok.span.start) with
    | nil =>
      rw [left, List.append_nil] at parts
      rw [parts, List.length_append, if_neg (Nat.lt_irrefl _)]
      rfl
    | cons span spansAfter =>
      rw [left] at parts
      have here := item_split parts (List.length_append ..)
      have inside := congrArg List.length parts
      simp only [List.length_append, List.length_cons] at inside
      rw [if_pos (by omega), here, ok_bind]
      by_cases begins : span.start ≤ tok.span.start <;> simp [begins]

variable (analyzer : Analyzer) {text : String} {tokens : List Token}

theorem score_eq {cs : List Char} (quoted : ∀ tok ∈ tokens, tok.Quoted)
    (sorted : tokens.Pairwise (fun first second => first.span.start ≤ second.span.start))
    (record : FunctionRecord) :
    score analyzer cs tokens record = .ok (analyzer.score cs tokens record) := by
  have inBody : ∀ tok ∈ CSurvey.tokensWithin tokens record.body, tok.Quoted :=
    fun tok member => quoted tok (List.mem_of_mem_filter member)
  rw [score, tokensWithin_eq sorted, ok_bind, evaluate_eq _ _ _ inBody, ok_bind,
    collectSignals_eq, ok_bind]
  rfl

theorem quoted_of_mem_significant : ∀ tok ∈ significant (CSurvey.scan text), tok.Quoted :=
  fun tok member => quoted_of_mem_scan tok (List.mem_of_mem_filter member)

theorem pairwise_start_significant (text : String) :
    (significant (CSurvey.scan text)).Pairwise
      (fun first second => first.span.start ≤ second.span.start) :=
  ((pairwise_start_scan text).imp (fun less => Nat.le_of_lt less)).filter _

theorem analyze_eq (source : Source) :
    analyze analyzer source = .ok (analyzer.analyze source) := by
  rw [analyze, Analyzer.analyze]
  split
  · rename_i zero
    rw [zero]
    rfl
  rw [scan_eq, ok_bind, chunkSource_eq, ok_bind]
  cases CSurvey.chunkSource source (CSurvey.scan source.text) analyzer.maxChunkSize with
  | error fault => rfl
  | ok chunks =>
    have scored : each (score analyzer source.chars (significant (CSurvey.scan source.text)))
        (chunks.flatMap Chunk.functions) = .ok _ :=
      each_eq_ok (fun record _ => score_eq analyzer quoted_of_mem_significant
        (pairwise_start_significant source.text) record)
    have outside (spans : List Span) (tokens : List Token) :
        tokensOutside spans 0 tokens = .ok (CSurvey.tokensOutside spans tokens) :=
      tokensOutside_eq (List.nil_append spans).symm tokens
    have quoted (spans : List Span) (tok : Token)
        (member : tok ∈ CSurvey.tokensOutside spans (significant (CSurvey.scan source.text))) :
        tok.Quoted :=
      quoted_of_mem_significant tok ((tokensOutside_sublist _ _).subset member)
    simp only [scored, outside, ok_bind, evaluate_eq _ _ _ (quoted _)]
    rfl

/-- The place of the first member that passes a test, or else of the first one. -/
theorem item_findIdx? {α : Type} (first : α) (rest : List α) (test : α → Bool) :
    item (first :: rest) (((first :: rest).findIdx? test).getD 0) =
      .ok (((first :: rest).find? test).getD first) := by
  rw [List.find?_eq_bind_findIdx?_getElem?]
  cases found : (first :: rest).findIdx? test with
  | none => rfl
  | some index =>
    have passes := List.of_findIdx?_eq_some found
    cases here : (first :: rest)[index]? with
    | none => simp [here] at passes
    | some member => simp [item_eq_ok here, here]

theorem pickRecord_eq (text : String) (name : Option String) :
    pickRecord text (CSurvey.scan text) name =
      .ok (Analyzer.pickRecord text (CSurvey.scan text) name) := by
  rw [pickRecord, extractFunctions_eq (laid_scan text), ok_bind, Analyzer.pickRecord]
  cases FunctionRecord.assignOrdinals []
      (CSurvey.extractFunctions text.toList (CSurvey.scan text) 0) with
  | nil =>
    rw [fragmentRecord_eq]
    cases name <;> rfl
  | cons first rest =>
    cases name with
    | none => rfl
    | some name =>
      have picked := item_findIdx? first rest (fun record => record.name == name)
      simp only [List.isEmpty_cons, Bool.false_eq_true, if_false, Option.bind_some, picked,
        List.head?_cons]
      cases (first :: rest).find? (fun record => record.name == name) <;> rfl

theorem analyzeFunction_eq (text : String) (name : Option String) :
    analyzeFunction analyzer text name = .ok (analyzer.analyzeFunction text name) := by
  rw [analyzeFunction, Analyzer.analyzeFunction]
  split
  · rfl
  rw [scan_eq, ok_bind, pickRecord_eq, ok_bind, score_eq analyzer quoted_of_mem_significant
    (pairwise_start_significant text), ok_bind]
  rfl

end Checked

/-- Every source is analyzed, and every text as one function, without a position outside a list, a
cut off a boundary or turned around, or a difference below zero, for every limit of at least one
line and every table of rules. -/
theorem analyze_never_slips (analyzer : Analyzer) (positive : 1 ≤ analyzer.maxChunkSize)
    (source : Source) (text : String) (name : Option String) :
    (∃ analysis, Checked.analyze analyzer source = .ok (.ok analysis) ∧
      analyzer.analyze source = .ok analysis) ∧
      Checked.analyzeFunction analyzer text name = .ok (analyzer.analyzeFunction text name) := by
  have analyzed := analyzer.analyze_eq source positive
  refine ⟨⟨analyzer.analysis source, ?_, analyzed⟩, Checked.analyzeFunction_eq analyzer text name⟩
  rw [Checked.analyze_eq, analyzed]

/-- A body, a parameter list, an index and a literal that are not closed, the last one with a
backslash before a character of two bytes. -/
theorem analyze_never_slips_unclosed :
    let analyzer : Analyzer := ⟨1, RiskTable.builtin, Thresholds.standard⟩
    let source := Source.ofText "int f(int a) \x7b\n  x = *(p + a[i;\n  gets(s, \"\\é"
    1 ≤ analyzer.maxChunkSize ∧ ∃ analysis, Checked.analyze analyzer source = .ok (.ok analysis) ∧
      analysis.chunks.map (fun chunk => (chunk.endLine, chunk.incomplete, chunk.functionNames)) =
        [(3, true, ["f"])] ∧
      analysis.findings.map (fun finding => (finding.patternId, finding.function)) =
        [("unbounded-read", some "f")] := by
  intro analyzer source
  have positive : 1 ≤ analyzer.maxChunkSize := by decide
  obtain ⟨⟨analysis, checked, analyzed⟩, -⟩ :=
    analyze_never_slips analyzer positive source source.text none
  refine ⟨positive, analysis, checked, ?_⟩
  rw [analyzer.analyze_eq source positive] at analyzed
  obtain rfl := Except.ok.inj analyzed
  decide +kernel

end CSurvey
