import CSurvey.Call
import CSurvey.FunctionRecord
import CSurvey.Text.Bytes

/-!
# Function definitions

A definition is a name outside all braces, a parameter list in parentheses
without semicolons and braces, and a body in braces.  The return type is the run
of identifiers and stars right before the name.  A body that is not closed runs to
the end of the text.
-/

namespace CSurvey

/-- The parts of a definition after its name. -/
structure Definition where
  openParen : Token
  params : List Token
  closeParen : Token
  openBrace : Token
  inner : List Token
  /-- `none` when the body is not closed. -/
  closeBrace : Option Token
deriving DecidableEq, Repr

namespace Definition

/-- The tokens of a parameter list after its opening parenthesis, with the closing one and what
follows it; `passed` holds the tokens already read, latest first. -/
def paramList (level : Nat) (passed : List Token) :
    List Token → Option (List Token × Token × List Token)
  | [] => none
  | tok :: rest =>
    if tok.isPunct "(" then paramList (level + 1) (tok :: passed) rest
    else if tok.isPunct ")" then
      if level ≤ 1 then some (passed.reverse, tok, rest)
      else paramList (level - 1) (tok :: passed) rest
    else if tok.isPunct ";" || tok.isPunct Token.openBrace || tok.isPunct Token.closeBrace then none
    else paramList level (tok :: passed) rest

/-- Whether a token is the closing brace that ends a body opened at `depth`. -/
def closes (depth : Nat) (tok : Token) : Bool :=
  tok.isPunct Token.closeBrace && tok.depth == depth

/-- The definition whose parts begin the tokens after a name. -/
def ofTokens? : List Token → Option Definition
  | [] => none
  | openParen :: rest =>
    if openParen.isPunct "(" then
      match paramList 1 [] rest with
      | some (params, closeParen, openBrace :: bodyRest) =>
        if openBrace.isPunct Token.openBrace then
          some
            { openParen, params, closeParen, openBrace
              inner := bodyRest.takeWhile (fun tok => !closes openBrace.depth tok)
              closeBrace := (bodyRest.dropWhile (fun tok => !closes openBrace.depth tok)).head? }
        else none
      | _ => none
    else none

/-- The number of tokens after the name that belong to the definition. -/
def tokenCount (definition : Definition) : Nat :=
  definition.params.length + definition.inner.length + 3 +
    (if definition.closeBrace.isSome then 1 else 0)

def lastToken (definition : Definition) : Token :=
  definition.closeBrace.getD (definition.inner.getLastD definition.openBrace)

end Definition

/-- Whether the first of some significant tokens names a definition. -/
def startsDefinition : List Token → Bool
  | [] => false
  | tok :: rest => tok.depth == 0 && tok.isName && (Definition.ofTokens? rest).isSome

/-- Whether the token at an index names a definition. -/
def definesAt (tokens : List Token) (index : Nat) : Bool :=
  startsDefinition (tokens.drop index)

/-- Whether a token can belong to a return type. -/
def isTypeWord (tok : Token) : Bool :=
  tok.isIdent || tok.isPunct "*"

/-- Whether a token ends the declaration before it. -/
def endsDeclaration (tok : Token) : Bool :=
  tok.depth == 0 && (tok.isPunct ";" || tok.isPunct Token.closeBrace)

/-- The record of a definition in the text `cs`.  `before` holds the tokens of its declaration
before the name, nearest first. -/
def Definition.record (definition : Definition) (cs : List Char) (before : List Token)
    (name : Token) (chunkId : Nat) : FunctionRecord :=
  let header := ((before.takeWhile isTypeWord).getLastD name).span
  let (stop, endLine) :=
    match definition.closeBrace with
    | some brace => (brace.span.stop, brace.span.endLine)
    | none => (Text.byteLength cs, definition.lastToken.span.endLine)
  let opening := definition.openBrace.span
  let calls := countCalls definition.inner
  { name := name.text
    ordinal := 1
    signature := Text.collapse (Text.slice cs header.start definition.closeParen.span.stop)
    returnType := Text.collapse (Text.slice cs header.start name.span.start)
    params := Text.collapse
      (Text.slice cs definition.openParen.span.stop definition.closeParen.span.start)
    chunkId
    span := ⟨header.start, stop, header.line, endLine⟩
    body := ⟨opening.start, stop, opening.line, endLine⟩
    text := String.ofList (Text.slice cs header.start stop)
    incomplete := definition.closeBrace.isNone
    calls
    metrics :=
      { measure definition.inner (definition.openBrace.depth + 1) definition.params
          (Text.slice cs opening.start stop) with
        callCount := calls.total } }

/-- The definitions among significant tokens of the text `cs`, in order.  `before` holds the tokens
since the last declaration, nearest first, and the first `skip` tokens belong to the last
definition. -/
def definitionsFrom (cs : List Char) (chunkId : Nat) :
    List Token → Nat → List Token → List FunctionRecord
  | _, _, [] => []
  | before, skip + 1, _ :: rest => definitionsFrom cs chunkId before skip rest
  | before, 0, tok :: rest =>
    let found := if tok.depth == 0 && tok.isName then Definition.ofTokens? rest else none
    match found with
    | some definition =>
      definition.record cs before tok chunkId ::
        definitionsFrom cs chunkId [] definition.tokenCount rest
    | none =>
      definitionsFrom cs chunkId (if endsDeclaration tok then [] else tok :: before) 0 rest

/-- The definitions among the tokens of a text, in order, all with the ordinal 1. -/
def extractFunctions (cs : List Char) (tokens : List Token) (chunkId : Nat) :
    List FunctionRecord :=
  definitionsFrom cs chunkId [] 0 (significant tokens)

/-- A record for a text without definitions, taken as one body under a given name. -/
def fragmentRecord (name : String) (text : String) (tokens : List Token) : FunctionRecord :=
  let body := significant tokens
  let span :=
    match tokens.head?, tokens.getLast? with
    | some first, some last => first.span.join last.span
    | _, _ => Span.zero
  let calls := countCalls body
  { name
    ordinal := 1
    signature := ""
    returnType := ""
    params := ""
    chunkId := 0
    span
    body := span
    text
    incomplete := false
    calls
    metrics := { measure body 0 [] text.toList with callCount := calls.total } }

end CSurvey
