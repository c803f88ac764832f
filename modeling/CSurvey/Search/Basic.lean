import CSurvey.Definition
import CSurvey.Search.Query
import CSurvey.Source
import CSurvey.Text.Blank
import CSurvey.Token.Scan

/-!
# Search

Searches look at the tokens of a source, so that a name inside a comment is not
taken for code.  Matches without characters are no hits.
-/

namespace CSurvey

/-- What a hit lies in. -/
inductive MatchKind where
  | function
  | variableName
  | string
  | comment
  | code
deriving DecidableEq, Repr, Inhabited

namespace MatchKind

def name : MatchKind → String
  | function => "function"
  | variableName => "variable"
  | string => "string"
  | comment => "comment"
  | code => "code"

end MatchKind

structure SearchMatch where
  span : Span
  matchedText : String
  kind : MatchKind
  /-- Whether it is the name of a definition. -/
  isDefinition : Bool
  /-- The line of the hit, without the blanks at its ends, cut to a bounded length. -/
  context : String
deriving DecidableEq, Repr, Inhabited

namespace Search

/-- The number of characters kept of a line. -/
def contextLength : Nat :=
  200

/-- The text that is searched: its characters, lines and tokens. -/
structure Field where
  chars : List Char
  lines : LineIndex
  tokens : List Token
  significant : List Token

def Field.ofSource (source : Source) : Field :=
  let tokens := scan source.text
  ⟨source.chars, source.lines, tokens, CSurvey.significant tokens⟩

namespace Field

/-- What is shown of a line. -/
def context (field : Field) (line : Nat) : String :=
  let range := field.lines.lineRange line
  String.ofList ((Text.trim (Text.slice field.chars range.1 range.2)).take contextLength)

/-- A hit of the given characters at a byte offset. -/
def hit (field : Field) (start : Nat) (cs : List Char) (kind : MatchKind) (isDefinition : Bool) :
    SearchMatch :=
  let stop := start + Text.byteLength cs
  let line := field.lines.lineOf start
  { span := ⟨start, stop, line, field.lines.lineOf (stop - 1)⟩
    matchedText := String.ofList cs
    kind
    isDefinition
    context := field.context line }

/-- Hits with the byte offsets of their starts, when the first gap begins at `offset`; those
without characters are left out. -/
def located (offset : Nat) : List Hit → List (Nat × List Char)
  | [] => []
  | hit :: rest =>
    let start := offset + Text.byteLength hit.gap
    let later := located (start + Text.byteLength hit.text) rest
    if hit.text.isEmpty then later else (start, hit.text) :: later

/-- The names that match, as functions before a parenthesis or else as variables.  The list is what
is left of the significant tokens. -/
def names (field : Field) (matcher : Matcher) (calls : Bool) : List Token → List SearchMatch
  | [] => []
  | tok :: rest =>
    let later := field.names matcher calls rest
    if tok.isName && Token.punctAt rest.head? "(" == calls && matcher.matchesName tok.text.toList
    then
      { span := tok.span
        matchedText := tok.text
        kind := if calls then .function else .variableName
        isDefinition := calls && startsDefinition (tok :: rest)
        context := field.context tok.span.line } :: later
    else later

def inside (field : Field) (matcher : Matcher) (keep : TokenKind → Bool) (kind : MatchKind) :
    List SearchMatch :=
  (field.tokens.filter (fun tok => keep tok.kind)).flatMap (fun tok =>
    let offset := if tok.kind.isLiteral then tok.span.start + 1 else tok.span.start
    (located offset (matcher.hits tok.body.toList)).map (fun (start, cs) =>
      field.hit start cs kind false))

/-- What the token that holds a byte is, and whether it names a definition; blanks are code. -/
def classify (field : Field) (offset : Nat) : MatchKind × Bool :=
  match (field.tokens.dropWhile (fun tok => tok.span.stop ≤ offset)).head? with
  | none => (.code, false)
  | some tok =>
    if offset < tok.span.start then (.code, false)
    else if tok.kind.isLiteral then (.string, false)
    else if tok.kind.isComment then (.comment, false)
    else if tok.isName && !tok.directive then
      let here := field.significant.dropWhile (fun other => other.span.start < tok.span.start)
      if Token.punctAt here[1]? "(" then (.function, startsDefinition here)
      else (.variableName, false)
    else (.code, false)

def anywhere (field : Field) (matcher : Matcher) : List SearchMatch :=
  (located 0 (matcher.hits field.chars)).map (fun (start, cs) =>
    let (kind, isDefinition) := field.classify start
    field.hit start cs kind isDefinition)

/-- The hits of a matcher, in the order of the text. -/
def run (field : Field) (matcher : Matcher) : SearchKind → List SearchMatch
  | .function => field.names matcher true field.significant
  | .variableName => field.names matcher false field.significant
  | .string => field.inside matcher TokenKind.isLiteral .string
  | .comment => field.inside matcher TokenKind.isComment .comment
  | .any => field.anywhere matcher

end Field

end Search

/-- The hits of a query in a source, in the order of the text. -/
def search (compile : PatternCompiler) (source : Source) (query : SearchQuery) :
    Except Fault (List SearchMatch) := do
  let matcher ← query.matcher compile
  return (Search.Field.ofSource source).run matcher query.kind

end CSurvey
