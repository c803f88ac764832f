import CSurvey.Text.Blank
import CSurvey.Token.Basic

/-!
# Complexity metrics

Counts of branches, loops and decisions in the tokens of a body, its deepest
nesting of braces, its lines that are not blank, and the parameters of a header.
The `while` that ends a do-loop is told from one that begins a loop by the brace
before it: the brace closes a block that was opened right after `do`.
-/

namespace CSurvey

/-- The complexity of one body. -/
structure Metrics where
  branchCount : Nat
  loopCount : Nat
  maxNestingDepth : Nat
  lineCount : Nat
  parameterCount : Nat
  callCount : Nat
  cyclomatic : Nat
deriving DecidableEq, Repr, Inhabited

namespace Metrics

/-- The metrics of nothing. -/
def zero : Metrics :=
  ⟨0, 0, 0, 0, 0, 0, 0⟩

/-- A coarse level from the number of lines. -/
def level (metrics : Metrics) : String :=
  if metrics.lineCount < 20 then "low"
  else if metrics.lineCount < 50 then "medium"
  else if metrics.lineCount < 100 then "high"
  else "very high"

end Metrics

/-- The commas at the first level of parentheses and brackets, `nested` of which are open. -/
def topLevelCommas (nested : Nat) : List Token → Nat
  | [] => 0
  | tok :: rest =>
    if tok.text == "(" || tok.text == "[" then topLevelCommas (nested + 1) rest
    else if tok.text == ")" || tok.text == "]" then topLevelCommas (nested - 1) rest
    else if tok.text == "," && nested == 0 then topLevelCommas nested rest + 1
    else topLevelCommas nested rest

/-- The number of parameters in the tokens of a parameter list; none for no code and for a
single `void`. -/
def countParameters (params : List Token) : Nat :=
  let code := params.filter Token.isCode
  if code.map Token.text == [] || code.map Token.text == ["void"] then 0
  else topLevelCommas 0 code + 1

namespace Metrics

/-- Where measuring stands: the counts so far, for each open brace whether `do` stood right
before it, whether a block of `do` was closed last, and the last token. -/
structure Progress where
  metrics : Metrics
  openedByDo : List Bool
  closedDo : Bool
  previous : Option Token
deriving DecidableEq, Repr

namespace Progress

def addBranch (progress : Progress) : Progress :=
  { progress with metrics.branchCount := progress.metrics.branchCount + 1 }

def addDecision (progress : Progress) : Progress :=
  { progress with metrics.cyclomatic := progress.metrics.cyclomatic + 1 }

def addLoop (progress : Progress) : Progress :=
  { progress with metrics.loopCount := progress.metrics.loopCount + 1 }.addDecision

/-- What one token of code adds, in a body whose tokens stand at brace depth `depth`. -/
def count (depth : Nat) (progress : Progress) (tok : Token) : Progress :=
  if tok.text ∈ ["if", "case", "?"] then progress.addBranch.addDecision
  else if tok.text ∈ ["else", "switch", "goto"] then progress.addBranch
  else if tok.text ∈ ["&&", "||"] then progress.addDecision
  else if tok.text ∈ ["for", "do"] then progress.addLoop
  else if tok.text == "while" then
    if progress.closedDo && progress.previous.any (·.isPunct Token.closeBrace) then progress
    else progress.addLoop
  else if tok.text == Token.openBrace then
    { progress with
      metrics.maxNestingDepth := max progress.metrics.maxNestingDepth (tok.depth + 1 - depth)
      openedByDo := progress.previous.any (·.isPunct "do") :: progress.openedByDo }
  else if tok.text == Token.closeBrace then
    { progress with
      closedDo := progress.openedByDo.headD false
      openedByDo := progress.openedByDo.tail }
  else progress

/-- Past one token. -/
def step (depth : Nat) (progress : Progress) (tok : Token) : Progress :=
  if tok.isCode then
    let counted := progress.count depth tok
    { counted with
      closedDo := counted.closedDo && (tok.text == Token.closeBrace || tok.text == "while")
      previous := some tok }
  else
    { progress with previous := some tok }

end Progress

end Metrics

/-- Measure a body: its significant tokens, which stand at brace depth `depth`, the tokens of the
parameter list, and the text of the body. -/
def measure (body : List Token) (depth : Nat) (params : List Token) (text : List Char) : Metrics :=
  let start : Metrics :=
    { Metrics.zero with
      lineCount := Text.nonBlankLines text
      parameterCount := countParameters params
      cyclomatic := 1 }
  (body.foldl (Metrics.Progress.step depth) ⟨start, [], false, none⟩).metrics

end CSurvey
