import CSurvey.Advice.Basic
import CSurvey.CallGraph.Build
import CSurvey.Risk.Match
import CSurvey.Risk.Summary

/-!
# Analysis

The whole pipeline over one source: tokens, chunks, functions, the call graph,
findings and advice.  Each significant token of the source is scored in one
scope: the body of the function it belongs to, or what lies outside all
functions.
-/

namespace CSurvey

/-- What an analysis can be set to. -/
structure Analyzer where
  maxChunkSize : Nat
  risk : RiskTable
  thresholds : Thresholds
deriving DecidableEq, Repr

/-- The result of analyzing one source. -/
structure FileAnalysis where
  source : SourceInfo
  maxChunkSize : Nat
  chunks : List Chunk
  graph : CallGraph
  /-- Those of each function in the order of the text, then those outside all functions. -/
  findings : List Finding
  /-- The advice for the functions that get a suggestion, in the order of the text. -/
  advice : List Advice

namespace FileAnalysis

def functions (analysis : FileAnalysis) : List FunctionRecord :=
  analysis.chunks.flatMap Chunk.functions

/-- The number of findings of high or critical severity. -/
def severeFindings (analysis : FileAnalysis) : Nat :=
  analysis.findings.countP (fun finding => finding.severity.isSevere)

def findingsIn (analysis : FileAnalysis) (key : String) : List Finding :=
  analysis.findings.filter (fun finding => finding.function == some key)

end FileAnalysis

/-- The result of analyzing one function on its own. -/
structure FunctionAnalysis where
  /-- `none` when there was nothing but blanks. -/
  record : Option FunctionRecord
  findings : List Finding
  signals : Signals
  purposeHints : List String
  errorHandling : List String
  complexityLevel : String
  riskLevel : Option Severity
  advice : Advice

/-- The tokens that begin inside a span. -/
def tokensWithin (tokens : List Token) (span : Span) : List Token :=
  tokens.filter (fun tok => span.start ≤ tok.span.start && tok.span.start < span.stop)

/-- The tokens that begin outside all spans, which are disjoint and in order. -/
def tokensOutside : List Span → List Token → List Token
  | _, [] => []
  | spans, tok :: rest =>
    let ahead := spans.dropWhile (fun span => span.stop ≤ tok.span.start)
    if ahead.head?.any (fun span => span.start ≤ tok.span.start) then tokensOutside ahead rest
    else tok :: tokensOutside ahead rest

/-- The findings, signals and advice of one function. -/
structure ScoredFunction where
  findings : List Finding
  signals : Signals
  advice : Advice

namespace Analyzer

/-- Score the body of a function among the significant tokens of the text `cs`. -/
def score (analyzer : Analyzer) (cs : List Char) (tokens : List Token) (record : FunctionRecord) :
    ScoredFunction :=
  let body := tokensWithin tokens record.body
  let findings := analyzer.risk.evaluate cs body (some record.key)
  let signals := Signals.ofTokens body
  { findings
    signals
    advice := Advice.advise ⟨record.key, record.metrics, findings, signals⟩ analyzer.thresholds }

def analyze (analyzer : Analyzer) (source : Source) : Except Fault FileAnalysis := do
  let cs := source.chars
  let tokens := scan source.text
  let chunks ← chunkSource source tokens analyzer.maxChunkSize
  let body := significant tokens
  let records := chunks.flatMap Chunk.functions
  let scored := records.map (analyzer.score cs body)
  let residual := tokensOutside (records.map FunctionRecord.span) body
  return {
    source := source.info
    maxChunkSize := analyzer.maxChunkSize
    chunks
    graph := CallGraph.ofChunks chunks
    findings := scored.flatMap ScoredFunction.findings ++ analyzer.risk.evaluate cs residual none
    advice := (scored.map ScoredFunction.advice).filter (fun advice => !advice.isEmpty) }

/-- The name of a text without definitions and without a name of its own. -/
def fragmentName : String :=
  "<fragment>"

/-- The record to analyze in a text: the definition of the given name, or else the first one, or
else the text as one body. -/
def pickRecord (text : String) (tokens : List Token) (name : Option String) : FunctionRecord :=
  let records := FunctionRecord.assignOrdinals [] (extractFunctions text.toList tokens 0)
  let named := name.bind (fun name => records.find? (fun record => record.name == name))
  (named <|> records.head?).getD (fragmentRecord (name.getD fragmentName) text tokens)

def analyzeFunction (analyzer : Analyzer) (text : String) (name : Option String) :
    FunctionAnalysis :=
  if text.toList.all Text.isBlank then
    { record := none
      findings := []
      signals := default
      purposeHints := []
      errorHandling := []
      complexityLevel := "low"
      riskLevel := none
      advice := Advice.advise ⟨name.getD fragmentName, Metrics.zero, [], default⟩
        analyzer.thresholds }
  else
    let tokens := scan text
    let record := pickRecord text tokens name
    let scored := analyzer.score text.toList (significant tokens) record
    { record := some record
      findings := scored.findings
      signals := scored.signals
      purposeHints := NameHints.purposes record.name
      errorHandling := scored.signals.errorHandling
      complexityLevel := record.metrics.level
      riskLevel := RiskSummary.worst? scored.findings
      advice := scored.advice }

end Analyzer

end CSurvey
