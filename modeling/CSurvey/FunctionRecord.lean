import CSurvey.Metrics
import CSurvey.Tally

/-!
# Function records

What is known about one function definition: its name and header, where it and
its body stand, its text, the calls it makes and its metrics.  Definitions of one
name are told apart by an ordinal.
-/

namespace CSurvey

structure FunctionRecord where
  name : String
  /-- 1 for the first definition of the name in its file, 2 for the next, and so on. -/
  ordinal : Nat
  /-- The header up to the closing parenthesis, blanks collapsed. -/
  signature : String
  returnType : String
  /-- The text between the parentheses, blanks collapsed. -/
  params : String
  chunkId : Nat
  /-- From the header to the closing brace or the end of the text. -/
  span : Span
  /-- From the opening brace to the closing brace or the end of the text. -/
  body : Span
  text : String
  /-- Whether the closing brace is missing. -/
  incomplete : Bool
  calls : Tally
  metrics : Metrics
deriving DecidableEq, Inhabited

namespace FunctionRecord

/-- A key that tells the definitions of a file apart: the name, with the ordinal after the
first. -/
def key (record : FunctionRecord) : String :=
  if record.ordinal ≤ 1 then record.name else s!"{record.name}#{record.ordinal}"

/-- The number of call sites in the body. -/
def callSites (record : FunctionRecord) : Nat :=
  record.calls.total

/-- Number the definitions of each name when definitions of the names `before` came earlier. -/
def assignOrdinals (before : List String) : List FunctionRecord → List FunctionRecord
  | [] => []
  | record :: rest =>
    { record with ordinal := before.count record.name + 1 } ::
      assignOrdinals (record.name :: before) rest

end FunctionRecord

end CSurvey
