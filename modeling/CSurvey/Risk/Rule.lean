import CSurvey.Fault
import CSurvey.Span
import CSurvey.Text.Search

/-!
# Risk rules and findings

A rule names a pattern of tokens, says how severe a match is on a scale of four, why,
and what to do about it.  A finding is one match.
-/

namespace CSurvey

inductive Severity where
  | low
  | medium
  | high
  | critical
deriving DecidableEq, Repr, Inhabited

namespace Severity

/-- From the least severe to the most severe. -/
def all : List Severity :=
  [low, medium, high, critical]

/-- The weight in a security score, which also orders the scale. -/
def weight : Severity → Nat
  | low => 1
  | medium => 2
  | high => 3
  | critical => 4

def name : Severity → String
  | low => "low"
  | medium => "medium"
  | high => "high"
  | critical => "critical"

/-- The more severe of two. -/
def max (first second : Severity) : Severity :=
  if first.weight ≤ second.weight then second else first

/-- The most severe of a list. -/
def worst? : List Severity → Option Severity
  | [] => none
  | severity :: rest => some (rest.foldl max severity)

/-- Whether it calls for action at once. -/
def isSevere (severity : Severity) : Bool :=
  high.weight ≤ severity.weight

/-- The severity with a given name, exactly as written. -/
def ofName? (name : String) : Option Severity :=
  all.find? (fun severity => severity.name == name)

/-- The severity that a word names, whatever the case of its letters. -/
def parse (word : String) : Except Fault Severity :=
  let lower := Text.lower word
  match ofName? lower with
  | some severity => .ok severity
  | none => .error (.argument (.unknownSeverity lower))

end Severity

/-- A function and the position of its format among its arguments, counted from zero. -/
abbrev FormatPlace :=
  String × Nat

/-- How a rule recognizes its matches. -/
inductive RiskPattern where
  /-- A call of one of these functions. -/
  | call (names : List String)
  /-- A call whose format is there and is not made of string literals only. -/
  | formatArgument (places : List FormatPlace)
  /-- A call whose format has a string conversion without width. -/
  | unboundedScanf (places : List FormatPlace)
  /-- An allocation whose result is never checked. -/
  | uncheckedAllocation (names : List String)
  /-- The first allocation in a scope that releases nothing. -/
  | allocationWithoutRelease (allocators releasers : List String)
  /-- A dereference of a sum or difference in parentheses. -/
  | pointerArithmetic
  /-- An assignment through an index that contains an identifier. -/
  | indexedWrite
  /-- An identifier or string literal that contains one of these words. -/
  | sensitiveName (words : List String)
  /-- One of these words in code. -/
  | keyword (words : List String)
deriving DecidableEq, Repr

structure RiskRule where
  id : String
  category : String
  severity : Severity
  pattern : RiskPattern
  rationale : String
  remedy : String
deriving DecidableEq, Repr

/-- One match of a rule. -/
structure Finding where
  patternId : String
  category : String
  severity : Severity
  span : Span
  /-- The text of the span. -/
  matched : String
  rationale : String
  remedy : String
  /-- The key of the function that the match is attributed to. -/
  function : Option String
deriving DecidableEq, Repr, Inhabited

end CSurvey
