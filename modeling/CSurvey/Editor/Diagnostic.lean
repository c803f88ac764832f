import CSurvey.Analysis

/-!
# Diagnostics

What an editor shows about a source: its findings, functions that are cut off, and
functions on a cycle of calls.  Positions are lines from zero and UTF-16 code units: one
for a character of the basic plane, two for any other.  Both are 32-bit words.
-/

namespace CSurvey

namespace Text

/-- The number of UTF-16 code units of a character. -/
def unitsOf (c : Char) : Nat :=
  if c.toNat < 0x10000 then 1 else 2

/-- The number of UTF-16 code units of a text. -/
def unitLength (cs : List Char) : Nat :=
  (cs.map unitsOf).sum

end Text

structure Position where
  line : Nat
  /-- UTF-16 units since the start of the line. -/
  character : Nat
deriving DecidableEq, Repr

/-- The number of values of the 32-bit words that positions are counted in. -/
def Position.wordSize : Nat :=
  Nat.pow 2 32

structure TextRange where
  start : Position
  stop : Position
deriving DecidableEq, Repr

inductive DiagnosticSeverity where
  | error
  | warning
  | information
  | hint
deriving DecidableEq, Repr

namespace DiagnosticSeverity

/-- How an editor shows findings of a severity. -/
def ofSeverity : Severity → DiagnosticSeverity
  | .critical | .high => error
  | .medium => warning
  | .low => information

/-- The number that stands for a severity, from 1 for the worst. -/
def number : DiagnosticSeverity → Nat
  | error => 1
  | warning => 2
  | information => 3
  | hint => 4

end DiagnosticSeverity

structure Diagnostic where
  range : TextRange
  severity : DiagnosticSeverity
  code : String
  message : String
  /-- The finding that is shown, if it is one. -/
  finding : Option Finding
deriving DecidableEq

namespace Diagnostic

def positionOf (cs : List Char) (lines : LineIndex) (offset : Nat) : Position :=
  let line := lines.lineOf offset
  let start := (lines.lineRange line).1
  ⟨(line - 1) % Position.wordSize,
    Text.unitLength (Text.slice cs start offset) % Position.wordSize⟩

def rangeOf (cs : List Char) (lines : LineIndex) (span : Span) : TextRange :=
  ⟨positionOf cs lines span.start, positionOf cs lines span.stop⟩

def ofFinding (cs : List Char) (lines : LineIndex) (finding : Finding) : Diagnostic :=
  { range := rangeOf cs lines finding.span
    severity := .ofSeverity finding.severity
    code := finding.patternId
    message := s!"{finding.matched} ({finding.severity.name}): {finding.rationale} " ++
      finding.remedy
    finding := some finding }

/-- A diagnostic at the place where a function begins. -/
def atHeader (cs : List Char) (lines : LineIndex) (record : FunctionRecord)
    (severity : DiagnosticSeverity) (code message : String) : Diagnostic :=
  let here := positionOf cs lines record.span.start
  ⟨⟨here, here⟩, severity, code, message, none⟩

/-- What is shown of a function: whether it is cut off, and the first cycle that it is on. -/
def ofFunction (cs : List Char) (lines : LineIndex) (cycles : List Cycle)
    (record : FunctionRecord) : List Diagnostic :=
  (if record.incomplete then
    [atHeader cs lines record .warning "incomplete-function"
      s!"`{record.name}` has no closing brace; the input looks truncated"]
   else []) ++
  (match cycles.find? (fun cycle => cycle.members.contains record.name) with
   | some cycle =>
     [atHeader cs lines record .hint "recursion-cycle"
       (s!"`{record.name}` is part of the cycle " ++ " ↔ ".intercalate cycle.members)]
   | none => [])

def ofAnalysis (source : Source) (analysis : FileAnalysis) : List Diagnostic :=
  let cs := source.chars
  let lines := source.lines
  analysis.findings.map (ofFinding cs lines) ++
    analysis.functions.flatMap (ofFunction cs lines analysis.graph.cycles)

end Diagnostic

end CSurvey
