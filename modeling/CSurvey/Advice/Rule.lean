import CSurvey.Metrics
import CSurvey.Risk.Rule

/-!
# Suggestion rules

The table of what can be suggested for a function: what makes each suggestion
due, how urgent it is, and its wording.
-/

namespace CSurvey

/-- The limits above which a metric asks for a suggestion. -/
structure Thresholds where
  maxLines : Nat
  maxBranches : Nat
  maxLoops : Nat
  maxNesting : Nat
  maxParameters : Nat
  maxCyclomatic : Nat
deriving DecidableEq, Repr

namespace Thresholds

/-- The limits in force when none are set. -/
def standard : Thresholds :=
  ⟨50, 10, 5, 4, 6, 15⟩

instance : Inhabited Thresholds :=
  ⟨standard⟩

end Thresholds

/-- The metrics that have a limit. -/
inductive Metric where
  | lines
  | branches
  | loops
  | nesting
  | parameters
  | cyclomatic
deriving DecidableEq, Repr

namespace Metric

def name : Metric → String
  | lines => "line_count"
  | branches => "branch_count"
  | loops => "loop_count"
  | nesting => "max_nesting_depth"
  | parameters => "parameter_count"
  | cyclomatic => "cyclomatic"

def value (metrics : Metrics) : Metric → Nat
  | lines => metrics.lineCount
  | branches => metrics.branchCount
  | loops => metrics.loopCount
  | nesting => metrics.maxNestingDepth
  | parameters => metrics.parameterCount
  | cyclomatic => metrics.cyclomatic

def limit (thresholds : Thresholds) : Metric → Nat
  | lines => thresholds.maxLines
  | branches => thresholds.maxBranches
  | loops => thresholds.maxLoops
  | nesting => thresholds.maxNesting
  | parameters => thresholds.maxParameters
  | cyclomatic => thresholds.maxCyclomatic

end Metric

/-- What makes a suggestion due. -/
inductive SuggestionCause where
  /-- A finding of one of these rules, whose severity the suggestion takes over. -/
  | findings (ids : List String)
  | metricAbove (metric : Metric)
  | magicNumbers
  | shortIdentifiers
  /-- A body that is not trivial and shows no way of reporting failure. -/
  | noErrorPath
deriving DecidableEq, Repr

structure SuggestionRule where
  id : String
  cause : SuggestionCause
  severity : Severity
  title : String
  detail : String
deriving DecidableEq, Repr

namespace SuggestionRule

def all : List SuggestionRule :=
  [{ id := "bound-buffer-operations"
     cause := .findings ["unbounded-copy", "unbounded-format", "unbounded-read", "unbounded-scanf"]
     severity := .high
     title := "Bound every buffer operation"
     detail := "Replace unbounded copy/format/read calls with size-taking variants and check " ++
       "their results." },
   { id := "constant-format-strings"
     cause := .findings ["format-string"]
     severity := .high
     title := "Use constant format strings"
     detail := "Pass data as arguments to a literal format instead of using it as the format." },
   { id := "remove-shell-execution"
     cause := .findings ["command-injection"]
     severity := .critical
     title := "Remove shell execution"
     detail := "Call the needed functionality directly or exec a fixed program with a " ++
       "validated argv." },
   { id := "check-allocations"
     cause := .findings ["unchecked-allocation", "allocation-without-free", "stack-allocation"]
     severity := .medium
     title := "Make allocation ownership explicit"
     detail := "Check each allocation for failure and release it on every exit path." },
   { id := "replace-pointer-arithmetic"
     cause := .findings ["pointer-arithmetic", "indexed-write"]
     severity := .medium
     title := "Replace raw offsets with typed access"
     detail := "Recover the struct layout behind computed offsets and validate indices " ++
       "before writes." },
   { id := "externalize-secrets"
     cause := .findings ["hardcoded-credential"]
     severity := .medium
     title := "Move secrets out of the code"
     detail := "Load credentials at runtime from protected storage." },
   { id := "split-function"
     cause := .metricAbove .lines
     severity := .medium
     title := "Split the function"
     detail := "Extract cohesive blocks into named helper functions." },
   { id := "simplify-branching"
     cause := .metricAbove .branches
     severity := .medium
     title := "Simplify branching"
     detail := "Use early returns, lookup tables or a dispatch switch instead of long " ++
       "if/else chains." },
   { id := "reduce-cyclomatic-complexity"
     cause := .metricAbove .cyclomatic
     severity := .medium
     title := "Reduce decision points"
     detail := "Separate validation, computation and error handling into their own functions." },
   { id := "flatten-nesting"
     cause := .metricAbove .nesting
     severity := .medium
     title := "Flatten nesting"
     detail := "Invert conditions with guard clauses so the main path stays at low depth." },
   { id := "extract-loops"
     cause := .metricAbove .loops
     severity := .low
     title := "Extract loop bodies"
     detail := "Move each loop into a helper named after what it computes." },
   { id := "group-parameters"
     cause := .metricAbove .parameters
     severity := .low
     title := "Group parameters"
     detail := "Pass related parameters together in a struct." },
   { id := "add-error-handling"
     cause := .noErrorPath
     severity := .low
     title := "Add error handling"
     detail := "Check inputs and callee results and report failure to the caller." },
   { id := "name-magic-numbers"
     cause := .magicNumbers
     severity := .low
     title := "Name magic numbers"
     detail := "Replace repeated numeric constants with named constants or enums." },
   { id := "rename-variables"
     cause := .shortIdentifiers
     severity := .low
     title := "Use descriptive names"
     detail := "Rename single-letter variables after the values they hold." }]

end SuggestionRule

end CSurvey
