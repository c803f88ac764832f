import CSurvey.Advice.Rule
import CSurvey.Risk.Rule
import CSurvey.Signals

/-!
# Advice

The suggestions for one function.  A rule makes at most one suggestion, at the
highest severity among what makes it due, and lists all of that.
-/

namespace CSurvey

structure Suggestion where
  id : String
  title : String
  detail : String
  severity : Severity
  /-- What made the suggestion due. -/
  triggers : List String
deriving DecidableEq, Repr, Inhabited

/-- How urgent the advice for a function is. -/
inductive Priority where
  | low
  | medium
  | high
deriving DecidableEq, Repr, Inhabited

namespace Priority

/-- The priority that goes with a number of suggestions. -/
def ofCount (count : Nat) : Priority :=
  if count ≤ 1 then low else if count ≤ 3 then medium else high

def name : Priority → String
  | low => "low"
  | medium => "medium"
  | high => "high"

/-- The priority of a name, exactly as written. -/
def ofName? (name : String) : Option Priority :=
  [low, medium, high].find? (fun priority => priority.name == name)

/-- The name as the first word of a heading. -/
def title : Priority → String
  | low => "Low"
  | medium => "Medium"
  | high => "High"

end Priority

structure Advice where
  function : String
  /-- The most severe first, in the order of the rules within a severity. -/
  suggestions : List Suggestion
  improvementScore : Nat
  priority : Priority
deriving DecidableEq, Repr, Inhabited

namespace Advice

def isEmpty (advice : Advice) : Bool :=
  advice.suggestions.isEmpty

/-- What advice on a function rests on. -/
structure Input where
  function : String
  metrics : Metrics
  findings : List Finding
  signals : Signals

/-- A body with fewer lines is not asked to report failure. -/
def errorPathLines : Nat :=
  5

/-- What makes a rule due, each with a severity, in the order in which it is listed. -/
def triggers (input : Input) (thresholds : Thresholds) (rule : SuggestionRule) :
    List (Severity × String) :=
  match rule.cause with
  | .findings ids =>
    (input.findings.filter (fun finding => ids.contains finding.patternId)).map (fun finding =>
      (finding.severity, s!"finding {finding.patternId} at line {finding.span.line}"))
  | .metricAbove metric =>
    let value := metric.value input.metrics
    let limit := metric.limit thresholds
    if limit < value then [(rule.severity, s!"{metric.name} {value} > {limit}")] else []
  | .magicNumbers =>
    if input.signals.magicNumbers.isEmpty then []
    else [(rule.severity, "magic numbers: " ++ ", ".intercalate input.signals.magicNumbers)]
  | .shortIdentifiers =>
    if input.signals.shortIdentifiers.isEmpty then []
    else [(rule.severity, "short names: " ++ ", ".intercalate input.signals.shortIdentifiers)]
  | .noErrorPath =>
    if errorPathLines ≤ input.metrics.lineCount && input.signals.lacksErrorPath then
      [(rule.severity, "no error return, errno use or NULL check")]
    else []

/-- The suggestion of a rule, if anything makes it due. -/
def suggestion? (input : Input) (thresholds : Thresholds) (rule : SuggestionRule) :
    Option Suggestion :=
  let due := triggers input thresholds rule
  (Severity.worst? (due.map (·.1))).map (fun severity =>
    { id := rule.id, title := rule.title, detail := rule.detail, severity
      triggers := due.map (·.2) })

/-- The suggestions of one severity after another, the most severe first. -/
def bySeverity (suggestions : List Suggestion) : List Suggestion :=
  Severity.all.reverse.flatMap (fun severity =>
    suggestions.filter (fun suggestion => suggestion.severity == severity))

def advise (input : Input) (thresholds : Thresholds) : Advice :=
  let suggestions := bySeverity (SuggestionRule.all.filterMap (suggestion? input thresholds))
  { function := input.function
    suggestions
    improvementScore := 100 - 15 * suggestions.length
    priority := Priority.ofCount suggestions.length }

end Advice

end CSurvey
