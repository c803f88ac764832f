import CSurvey.Advice.Basic
import CSurvey.Risk.Summary
import CSurvey.Risk.Table
import CSurvey.Sorted
import CSurvey.Wire.Function

/-!
# Findings and advice as JSON
-/

namespace CSurvey

def Severity.toJson (severity : Severity) : Json :=
  .str severity.name

def Severity.ofJson? (value : Json) : Option Severity := do
  Severity.ofName? (← value.caseName?)

def Finding.toJson (finding : Finding) : Json :=
  .obj [("pattern_id", .str finding.patternId), ("category", .str finding.category),
    ("severity", finding.severity.toJson), ("span", finding.span.toJson),
    ("matched", .str finding.matched), ("rationale", .str finding.rationale),
    ("remedy", .str finding.remedy), ("function", .ofOption .str finding.function)]

def Finding.ofJson? (value : Json) : Option Finding := do
  let [patternId, category, severity, span, matched, rationale, remedy, function] ←
    value.slots? ["pattern_id", "category", "severity", "span", "matched", "rationale", "remedy",
      "function"] | none
  return {
    patternId := ← patternId.required Json.str?
    category := ← category.required Json.str?
    severity := ← severity.required Severity.ofJson?
    span := ← span.required Span.ofJson?
    matched := ← matched.required Json.str?
    rationale := ← rationale.required Json.str?
    remedy := ← remedy.required Json.str?
    function := ← function.optional Json.str? }

def RiskOverrides.toJson (overrides : RiskOverrides) : Json :=
  .obj [("disabled", .strings overrides.disabled),
    ("severity", .obj (overrides.severity.map (fun entry => (entry.1, entry.2.toJson))))]

/-- The pairs of an object sorted by name. -/
def sortedPairs {α : Type} (pairs : List (String × α)) : List (String × α) :=
  Sorted.sort (fun first second => first.1 ≤ second.1) pairs

def RiskOverrides.ofJson? (value : Json) : Option RiskOverrides := do
  let [disabled, severity] ← value.slots? ["disabled", "severity"] | none
  return {
    disabled := ← disabled.withDefault [] Json.strings?
    severity := sortedPairs (← severity.withDefault [] (Json.pairs? Severity.ofJson?)) }

def RiskSummary.toJson (summary : RiskSummary) : Json :=
  .obj [("total", .nat summary.total),
    ("by_severity", .obj (summary.bySeverity.map (fun entry => (entry.1.name, .nat entry.2)))),
    ("by_category", summary.byCategory.toJson),
    ("security_score", .nat summary.securityScore), ("risk_level", .str summary.riskLevel)]

def Signals.toJson (signals : Signals) : Json :=
  .obj [("magic_numbers", .strings signals.magicNumbers),
    ("short_identifiers", .strings signals.shortIdentifiers),
    ("returns_error_code", .bool signals.returnsErrorCode),
    ("uses_errno", .bool signals.usesErrno), ("null_checks", .nat signals.nullChecks)]

def Signals.ofJson? (value : Json) : Option Signals := do
  let [magic, short, returns, errno, checks] ←
    value.slots? ["magic_numbers", "short_identifiers", "returns_error_code", "uses_errno",
      "null_checks"] | none
  return {
    magicNumbers := ← magic.required Json.strings?
    shortIdentifiers := ← short.required Json.strings?
    returnsErrorCode := ← returns.required Json.bool?
    usesErrno := ← errno.required Json.bool?
    nullChecks := ← checks.required Json.nat? }

def Thresholds.toJson (limits : Thresholds) : Json :=
  .obj [("max_lines", .nat limits.maxLines), ("max_branches", .nat limits.maxBranches),
    ("max_loops", .nat limits.maxLoops), ("max_nesting", .nat limits.maxNesting),
    ("max_parameters", .nat limits.maxParameters), ("max_cyclomatic", .nat limits.maxCyclomatic)]

def Thresholds.ofJson? (value : Json) : Option Thresholds := do
  let [lines, branches, loops, nesting, parameters, cyclomatic] ←
    value.slots? ["max_lines", "max_branches", "max_loops", "max_nesting", "max_parameters",
      "max_cyclomatic"] | none
  let standard := Thresholds.standard
  return {
    maxLines := ← lines.withDefault standard.maxLines Json.nat?
    maxBranches := ← branches.withDefault standard.maxBranches Json.nat?
    maxLoops := ← loops.withDefault standard.maxLoops Json.nat?
    maxNesting := ← nesting.withDefault standard.maxNesting Json.nat?
    maxParameters := ← parameters.withDefault standard.maxParameters Json.nat?
    maxCyclomatic := ← cyclomatic.withDefault standard.maxCyclomatic Json.nat? }

def Suggestion.toJson (suggestion : Suggestion) : Json :=
  .obj [("id", .str suggestion.id), ("title", .str suggestion.title),
    ("detail", .str suggestion.detail), ("severity", suggestion.severity.toJson),
    ("triggers", .strings suggestion.triggers)]

def Suggestion.ofJson? (value : Json) : Option Suggestion := do
  let [id, title, detail, severity, triggers] ←
    value.slots? ["id", "title", "detail", "severity", "triggers"] | none
  return {
    id := ← id.required Json.str?
    title := ← title.required Json.str?
    detail := ← detail.required Json.str?
    severity := ← severity.required Severity.ofJson?
    triggers := ← triggers.required Json.strings? }

def Priority.ofJson? (value : Json) : Option Priority := do
  Priority.ofName? (← value.caseName?)

def Advice.toJson (advice : Advice) : Json :=
  .obj [("function", .str advice.function),
    ("suggestions", .list Suggestion.toJson advice.suggestions),
    ("improvement_score", .nat advice.improvementScore), ("priority", .str advice.priority.name)]

def Advice.ofJson? (value : Json) : Option Advice := do
  let [function, suggestions, score, priority] ←
    value.slots? ["function", "suggestions", "improvement_score", "priority"] | none
  return {
    function := ← function.required Json.str?
    suggestions := ← suggestions.required (Json.list? Suggestion.ofJson?)
    improvementScore := ← score.required (Json.natBelow? (Nat.pow 2 32))
    priority := ← priority.required Priority.ofJson? }

end CSurvey
