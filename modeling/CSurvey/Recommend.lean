import CSurvey.Sorted
import CSurvey.Sum
import CSurvey.Text.Search

/-!
# Recommendations

Which operations fit a question asked in plain words.  The words are looked up in
a table of keywords, English and Chinese; the more often the keywords of an
operation occur, the higher it ranks.
-/

namespace CSurvey

/-- An operation that fits a question. -/
structure Recommendation where
  operation : String
  description : String
  /-- The number of occurrences of its keywords; zero in the standard workflow. -/
  score : Nat
  /-- The keywords that occur. -/
  matched : List String
deriving DecidableEq, Repr

/-- An operation that a result suggests to run next. -/
structure NextStep where
  operation : String
  reason : String
  /-- The functions or names to run it on. -/
  targets : List String
deriving DecidableEq, Repr

namespace NextStep

/-- The number of targets that a step lists. -/
def maxTargets : Nat :=
  3

/-- A step without targets. -/
def plain (operation reason : String) : NextStep :=
  ⟨operation, reason, []⟩

/-- The same step with the first few different targets that are not empty. -/
def withTargets (step : NextStep) (targets : List String) : NextStep :=
  { step with
    targets := ((step.targets ++ targets.filter (fun target => !target.isEmpty)).eraseDups).take
      (max maxTargets step.targets.length) }

end NextStep

/-- An operation with the keywords that ask for it. -/
structure Capability where
  operation : String
  description : String
  keywords : List String
deriving DecidableEq, Repr

namespace Capability

/-- All operations that can be recommended; of equal ones the first ranks higher. -/
def all : List Capability :=
  [{ operation := "chunk"
     description := "Split a large source file into contiguous, boundary-safe chunks"
     keywords := ["chunk", "split", "large", "huge", "big file", "分块", "分割", "大文件"] },
   { operation := "analyze_function"
     description := "Metrics, risks and purpose hints for a single function"
     keywords := ["function", "analyze", "complexity", "metric", "函数", "分析", "复杂度"] },
   { operation := "analyze_dependencies"
     description := "Call graph with cycles, components and critical functions"
     keywords := ["dependency", "dependencies", "call graph", "calls", "caller", "callee", "依赖",
       "调用"] },
   { operation := "search"
     description := "Find functions, variables, strings or comments by pattern"
     keywords := ["search", "find", "grep", "locate", "where", "搜索", "查找"] },
   { operation := "render_diagram"
     description := "Bounded call diagram as a spec, Mermaid or DOT"
     keywords := ["diagram", "chart", "visualize", "mermaid", "graphviz", "图", "可视化"] },
   { operation := "refactor"
     description := "Prioritized refactoring suggestions for a function"
     keywords := ["refactor", "improve", "clean", "readability", "重构", "优化", "改进"] },
   { operation := "audit"
     description := "Security risk findings with severities and remedies"
     keywords := ["security", "vulnerab", "audit", "overflow", "unsafe", "exploit", "安全",
       "漏洞"] },
   { operation := "report"
     description := "Combined markdown report for a whole file"
     keywords := ["report", "summary", "overview", "document", "报告", "总结", "概述"] }]

/-- The operations recommended when no keyword occurs. -/
def standardWorkflow : List String :=
  ["chunk", "analyze_dependencies", "analyze_function", "audit", "report"]

/-- A character in lower case as far as keywords can tell: besides the letters of ASCII, two
others have one of these as their lower case. -/
def lowerChar (c : Char) : List Char :=
  if c = '\u212a' then ['k']
  else if c = '\u0130' then ['i', '\u0307']
  else [c.toLower]

/-- The number of occurrences of a keyword after the first `skip` characters, none of which
overlap. -/
def occurrences (keyword : List Char) : Nat → List Char → Nat
  | _, [] => 0
  | skip + 1, _ :: rest => occurrences keyword skip rest
  | 0, c :: rest =>
    if keyword.isPrefixOf (c :: rest) then occurrences keyword (keyword.length - 1) rest + 1
    else occurrences keyword 0 rest

/-- How often each keyword occurs in a question in lower case. -/
def hits (capability : Capability) (question : List Char) : List (String × Nat) :=
  (capability.keywords.map (fun keyword =>
    (keyword, occurrences keyword.toList 0 question))).filter (fun hit => hit.2 != 0)

/-- The recommendation of an operation with the keywords that occur. -/
def recommendation (capability : Capability) (found : List (String × Nat)) : Recommendation :=
  { operation := capability.operation
    description := capability.description
    score := (found.map (·.2)).sum
    matched := found.map (·.1) }

end Capability

/-- The operations that fit a question, the best first; the standard workflow if none does. -/
def recommend (question : String) : List Recommendation :=
  let lower := question.toList.flatMap Capability.lowerChar
  let scored := (Capability.all.map (fun capability =>
    capability.recommendation (capability.hits lower))).filter (fun entry => entry.score != 0)
  if scored.isEmpty then
    Capability.standardWorkflow.filterMap (fun operation =>
      (Capability.all.find? (fun capability => capability.operation == operation)).map
        (fun capability => capability.recommendation []))
  else
    Sorted.sort (fun first second => second.score ≤ first.score) scored

end CSurvey
