import CSurvey.Text.Bytes
import CSurvey.Token.Basic

/-!
# Scanning text into tokens

The scanner never fails: a block comment that is not closed runs to the end of
the text, a literal that is not closed stops before the first line feed that no
backslash escapes, and a closing brace or parenthesis without partner leaves the
nesting at zero.  A `#` that is the first token of its line other than a comment
opens a directive, which lasts to the first line feed before which no backslash
stands, carriage returns not counted.
-/

namespace CSurvey

namespace Lexeme

/-- The blanks between tokens, line feed apart. -/
def isGap (c : Char) : Bool :=
  c == ' ' || c == '\t' || c == '\r' || c == '\x0b' || c == '\x0c'

/-- A character of a word: an ASCII letter or digit, `_`, `$`, or anything beyond ASCII. -/
def isWordChar (c : Char) : Bool :=
  c.isAlphanum || c == '_' || c == '$' || 0x80 ≤ c.toNat

/-- The operators of two characters that are one token. -/
def pairs : List (Char × Char) :=
  [('-', '>'), ('+', '+'), ('-', '-'), ('&', '&'), ('|', '|'), ('=', '='), ('!', '='), ('<', '='),
   ('>', '='), ('<', '<'), ('>', '>'), (':', ':'), ('+', '='), ('-', '='), ('*', '='), ('/', '='),
   ('%', '='), ('&', '='), ('|', '='), ('^', '=')]

/-- The characters of a block comment after its opening mark, and whether it is closed. -/
def blockRest : List Char → List Char × Bool
  | [] => ([], false)
  | '*' :: '/' :: _ => (['*', '/'], true)
  | c :: rest => let (more, closed) := blockRest rest; (c :: more, closed)

/-- The characters of a literal after its opening quote, and whether it is closed. -/
def literalRest (quote : Char) : List Char → List Char × Bool
  | [] => ([], false)
  | ['\\'] => (['\\'], false)
  | '\\' :: c :: rest => let (more, closed) := literalRest quote rest; ('\\' :: c :: more, closed)
  | c :: rest =>
    if c = quote then ([c], true)
    else if c = '\n' then ([], false)
    else let (more, closed) := literalRest quote rest; (c :: more, closed)

/-- The kind of the token that begins with `c` before `rest`, its characters after `c`, and
whether it is closed.  A `#` counts as any other mark here. -/
def after (c : Char) (rest : List Char) : TokenKind × List Char × Bool :=
  if c = '/' && rest.head? == some '/' then
    (.lineComment, rest.takeWhile (· ≠ '\n'), true)
  else if c = '/' && rest.head? == some '*' then
    let (more, closed) := blockRest rest.tail
    (.blockComment, '*' :: more, closed)
  else if c = '"' then
    let (more, closed) := literalRest '"' rest
    (.string, more, closed)
  else if c = '\'' then
    let (more, closed) := literalRest '\'' rest
    (.char, more, closed)
  else if isWordChar c then
    (.code, rest.takeWhile (fun d => isWordChar d || (c.isDigit && d == '.')), true)
  else if c = '.' && rest.take 2 == ['.', '.'] then
    (.code, ['.', '.'], true)
  else if rest.head?.any (fun d => pairs.contains (c, d)) then
    (.code, rest.take 1, true)
  else
    (.code, [], true)

end Lexeme

/-- Where the scanner stands: byte offset, line, open braces and parentheses, whether the line
has a token other than a comment, whether a directive is open, and whether the last character
other than a carriage return is a backslash. -/
structure ScanState where
  offset : Nat
  line : Nat
  depth : Nat
  parens : Nat
  lineHasCode : Bool
  inDirective : Bool
  backslash : Bool
deriving DecidableEq, Repr

namespace ScanState

/-- Before the first character. -/
def initial : ScanState :=
  ⟨0, 1, 0, 0, false, false, false⟩

/-- Past a line feed between tokens. -/
def newline (state : ScanState) : ScanState :=
  { state with
    offset := state.offset + 1
    line := state.line + 1
    lineHasCode := false
    inDirective := state.inDirective && state.backslash
    backslash := false }

/-- Past a blank between tokens. -/
def gap (state : ScanState) (c : Char) : ScanState :=
  { state with
    offset := state.offset + 1
    backslash := if c = '\r' then state.backslash else false }

/-- Whether the last character other than a carriage return is a backslash. -/
def endsInBackslash (cs : List Char) : Bool :=
  (cs.reverse.dropWhile (· == '\r')).head? == some '\\'

/-- The token with the given kind and characters that begins here, and the state after it. -/
def emit (state : ScanState) (kind : TokenKind) (cs : List Char) (terminated : Bool) :
    Token × ScanState :=
  let stop := state.offset + Text.byteLength cs
  let endLine := state.line + cs.count '\n'
  let structural := kind == .code && !state.inDirective
  let opensBrace := structural && cs == ['{']
  let closesBrace := structural && cs == ['}']
  let opensParen := structural && cs == ['(']
  let closesParen := structural && cs == [')']
  let depth := if closesBrace then state.depth - 1 else state.depth
  let parens := if closesParen then state.parens - 1 else state.parens
  ({ kind
     text := String.ofList cs
     span := ⟨state.offset, stop, state.line, endLine⟩
     depth
     parenDepth := parens
     directive := state.inDirective
     terminated },
   { offset := stop
     line := endLine
     depth := if opensBrace then state.depth + 1 else depth
     parens := if opensParen then state.parens + 1 else parens
     lineHasCode := state.lineHasCode || !kind.isComment
     inDirective := state.inDirective
     backslash := endsInBackslash cs })

/-- The token that begins with `c` before `rest`, and the state after it. -/
def token (state : ScanState) (c : Char) (rest : List Char) : Token × ScanState :=
  if c = '#' && !state.lineHasCode then
    { state with inDirective := true }.emit .code [c] true
  else
    let (kind, more, closed) := Lexeme.after c rest
    state.emit kind (c :: more) closed

/-- The tokens of the characters after the first `skip`, which belong to the last token. -/
def scan : ScanState → Nat → List Char → List Token
  | _, _, [] => []
  | state, skip + 1, _ :: rest => scan state skip rest
  | state, 0, c :: rest =>
    if c = '\n' then scan state.newline 0 rest
    else if Lexeme.isGap c then scan (state.gap c) 0 rest
    else
      let (tok, next) := state.token c rest
      tok :: scan next (tok.text.length - 1) rest

end ScanState

def scan (text : String) : List Token :=
  ScanState.initial.scan 0 text.toList

end CSurvey
