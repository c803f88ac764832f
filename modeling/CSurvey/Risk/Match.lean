import CSurvey.Call
import CSurvey.Risk.Conversion
import CSurvey.Risk.Table
import CSurvey.Text.Bytes
import CSurvey.Text.Search

/-!
# Matching risk rules

Each pattern is matched on the structure of the significant tokens of one scope.
A dangerous name inside a comment or a literal is no match; only the rule on
sensitive names looks into literals.  Findings come in the order of the rules,
and for one rule in the order of the text.
-/

namespace CSurvey

namespace RiskMatch

/-- Whether a place is a call of one of these functions. -/
def callsOneOf (names : List String) (place : Place) : Bool :=
  names.contains place.here.text

/-- The span from the name of a call to the end of its arguments. -/
def callSpan (place : Place) (arguments : Arguments) : Span :=
  place.here.span.join arguments.close.span

/-- The format argument of a call, if the function is in the table and has such an argument. -/
def formatOf? (places : List FormatPlace) (place : Place) : Option (List Token) := do
  let entry ← places.find? (fun entry => entry.1 == place.here.text)
  place.arguments.args[entry.2]?

/-- Whether a format argument is something other than string literals. -/
def isVariableFormat (format : List Token) : Bool :=
  format.any (fun tok => tok.kind != .string)

/-- Whether a format argument has a literal with a string conversion without width. -/
def isUnboundedFormat (format : List Token) : Bool :=
  format.any (fun tok => tok.kind == .string && hasUnboundedConversion tok.body)

/-- What precedes the parenthesis that opens the group whose closing one was passed, going back
through the tokens, nearest first, with `level` groups open. -/
def skipGroupBack : Nat → List Token → Option (List Token)
  | _, [] => none
  | level, tok :: rest =>
    if tok.text == ")" then skipGroupBack (level + 1) rest
    else if tok.text == "(" then
      if level ≤ 1 then some rest else skipGroupBack (level - 1) rest
    else skipGroupBack level rest

/-- The tokens before a call, nearest first, without a cast or another group in parentheses right
before it. -/
def beforeCast (before : List Token) : Option (List Token) :=
  if Token.punctAt before.head? ")" then skipGroupBack 0 before else some before

def isComparison (tok : Token) : Bool :=
  tok.isPunct "==" || tok.isPunct "!="

/-- Whether a variable is checked at one of its uses among `tokens`: negated, compared, or the
whole condition of a test.  `last` is the token before them and `earlier` the one before that. -/
def checkedLater (variableName : String) (earlier last : Option Token) : List Token → Bool
  | [] => false
  | tok :: rest =>
    let next := rest.head?
    let isUse := tok.isCode && tok.text == variableName
    let isCondition :=
      Token.punctAt last "(" &&
        earlier.any (fun word => ["if", "while", "assert"].contains word.text) &&
        Token.punctAt next ")"
    (isUse &&
      (Token.punctAt last "!" || last.any isComparison || next.any isComparison || isCondition)) ||
    checkedLater variableName last (some tok) rest

/-- Whether the result of an allocation is returned, checked on the spot, stored where this
analysis does not follow it, or stored in a variable that is checked later. -/
def isCheckedAllocation (place : Place) : Bool :=
  let arguments := place.arguments
  match beforeCast place.before with
  | none | some [] => false
  | some (previous :: target) =>
    if previous.isPunct "return" then true
    else if !previous.isPunct "=" then false
    else
      let comparedInline :=
        Token.punctAt arguments.rest.head? ")" && (arguments.rest[1]?).any isComparison
      let negatedInline := Token.punctAt target[1]? "(" && Token.punctAt target[2]? "!"
      if comparedInline || negatedInline then true
      else
        match target.head?.filter Token.isIdent with
        | none => true
        | some stored =>
          checkedLater stored.text none (some arguments.close) arguments.rest

/-- Whether a star after this token is a dereference and not a product. -/
def startsOperand (previous : Option Token) : Bool :=
  match previous with
  | none => true
  | some tok =>
    if tok.kind.isLiteral || tok.isNumber then false
    else if tok.isIdent then ["return", "case", "sizeof", "else", "do"].contains tok.text
    else !(tok.isPunct ")" || tok.isPunct "]")

/-- The last token of the address that a dereference computes: the end of the first of at most
`groups` groups in parentheses that contains a sum or a difference. -/
def computedAddress? : Nat → List Token → Option Token
  | 0, _ => none
  | groups + 1, tokens =>
    match Bracketed.ofTokens? "(" ")" tokens with
    | none => none
    | some group =>
      if group.inner.any (fun tok => tok.isPunct "+" || tok.isPunct "-") then some group.close
      else computedAddress? groups group.rest

/-- The span of a dereference of `*(p + n)` or `*(type *)(p + n)` at a place. -/
def pointerArithmetic? (place : Place) : Option Span :=
  if place.here.isPunct "*" && startsOperand place.previous then
    (computedAddress? 2 place.after).map (fun close => place.here.span.join close.span)
  else none

/-- The operators that assign. -/
def assignments : List String :=
  ["=", "+=", "-=", "*=", "/=", "%=", "&=", "|=", "^=", "<<=", ">>="]

def indexedWrite? (place : Place) : Option Span :=
  match place.before with
  | [] => none
  | previous :: _ =>
    if previous.isIdent || previous.isPunct "]" || previous.isPunct ")" then
      match Bracketed.ofTokens? "[" "]" (place.here :: place.after) with
      | none => none
      | some index =>
        if index.inner.any Token.isIdent &&
            index.rest.head?.any (fun tok => tok.isCode && assignments.contains tok.text) then
          some (previous.span.join index.close.span)
        else none
    else none

/-- Whether a token is a name or a string that contains one of the words. -/
def isSensitive (words : List String) (tok : Token) : Bool :=
  (tok.isIdent || tok.kind == .string) && words.any (Text.contains (Text.lower tok.text))

def spans (pattern : RiskPattern) (tokens : List Token) : List Span :=
  let calls := callPlaces tokens
  let named (names : List String) := calls.filter (callsOneOf names)
  match pattern with
  | .call names => (named names).map (fun place => place.here.span)
  | .formatArgument places =>
    (calls.filter (fun place => (formatOf? places place).any isVariableFormat)).map
      (fun place => callSpan place place.arguments)
  | .unboundedScanf places =>
    (calls.filter (fun place => (formatOf? places place).any isUnboundedFormat)).map
      (fun place => callSpan place place.arguments)
  | .uncheckedAllocation names =>
    ((named names).filter (fun place => !isCheckedAllocation place)).map
      (fun place => place.here.span)
  | .allocationWithoutRelease allocators releasers =>
    if (named releasers).isEmpty then
      ((named allocators).take 1).map (fun place => place.here.span)
    else []
  | .pointerArithmetic => (Place.all tokens).filterMap pointerArithmetic?
  | .indexedWrite => (Place.all tokens).filterMap indexedWrite?
  | .sensitiveName words => (tokens.filter (isSensitive words)).map Token.span
  | .keyword words =>
    (tokens.filter (fun tok => tok.isCode && words.contains tok.text)).map Token.span

end RiskMatch

namespace RiskRule

def finding (rule : RiskRule) (cs : List Char) (function : Option String) (span : Span) : Finding :=
  { patternId := rule.id
    category := rule.category
    severity := rule.severity
    span
    matched := String.ofList (Text.slice cs span.start span.stop)
    rationale := rule.rationale
    remedy := rule.remedy
    function }

end RiskRule

namespace RiskTable

/-- The findings among the significant tokens of one scope of the text `cs`, attributed to
`function`. -/
def evaluate (table : RiskTable) (cs : List Char) (tokens : List Token)
    (function : Option String) : List Finding :=
  table.rules.flatMap (fun rule =>
    (RiskMatch.spans rule.pattern tokens).map (rule.finding cs function))

end RiskTable

end CSurvey
