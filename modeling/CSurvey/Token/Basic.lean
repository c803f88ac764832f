import CSurvey.Span

/-!
# Tokens of C text

A token is a stretch of text of one kind, with its place, the nesting of braces
and parentheses it stands at, and two marks: whether it belongs to a
preprocessor directive and whether it was closed by what closes its kind.
-/

namespace CSurvey

/-- The kinds of token. -/
inductive TokenKind where
  | code
  | string
  | char
  | lineComment
  | blockComment
deriving DecidableEq, Repr, Inhabited

namespace TokenKind

def isComment : TokenKind → Bool
  | lineComment | blockComment => true
  | _ => false

def isLiteral : TokenKind → Bool
  | string | char => true
  | _ => false

end TokenKind

/-- Whether a character can begin an identifier. -/
def isIdentStart (c : Char) : Bool :=
  c.isAlpha || c == '_'

/-- Whether a character can continue an identifier. -/
def isIdentRest (c : Char) : Bool :=
  c.isAlphanum || c == '_'

/-- Whether a word is an identifier of standard C: an ASCII letter or underscore, then ASCII
letters, digits and underscores. -/
def isIdentifier (word : String) : Bool :=
  match word.toList with
  | [] => false
  | c :: rest => isIdentStart c && rest.all isIdentRest

/-- Keywords, and words of compilers that look like a call when a parenthesis follows. -/
def reservedWords : List String :=
  ["auto", "break", "case", "char", "const", "continue", "default", "do", "double", "else",
   "enum", "extern", "float", "for", "goto", "if", "inline", "int", "long", "register",
   "restrict", "return", "short", "signed", "sizeof", "static", "struct", "switch", "typedef",
   "union", "unsigned", "void", "volatile", "while", "_Alignas", "_Alignof", "_Atomic", "_Bool",
   "_Complex", "_Generic", "_Noreturn", "_Static_assert", "_Thread_local", "alignof", "asm",
   "__asm", "__asm__", "__attribute__", "__declspec", "__typeof__", "typeof", "defined",
   "__cdecl", "__stdcall", "__fastcall", "__thiscall"]

/-- Whether a word can never name a function. -/
def isReserved (word : String) : Bool :=
  reservedWords.contains word

/-- A token: its kind and text, the bytes and lines it covers, the number of braces and of
parentheses open around it, whether it belongs to a directive, and whether it is closed. -/
structure Token where
  kind : TokenKind
  text : String
  span : Span
  depth : Nat
  parenDepth : Nat
  directive : Bool
  terminated : Bool
deriving DecidableEq, Repr, Inhabited

namespace Token

def openBrace : String := "\x7b"

def closeBrace : String := "\x7d"

def isCode (tok : Token) : Bool :=
  tok.kind == .code

def isComment (tok : Token) : Bool :=
  tok.kind.isComment

/-- Neither a comment nor part of a directive. -/
def isSignificant (tok : Token) : Bool :=
  !tok.isComment && !tok.directive

def isIdent (tok : Token) : Bool :=
  tok.isCode && isIdentifier tok.text

/-- An identifier that may name a function. -/
def isName (tok : Token) : Bool :=
  tok.isIdent && !isReserved tok.text

def isNumber (tok : Token) : Bool :=
  tok.isCode && (tok.text.toList.head?.any Char.isDigit)

def isPunct (tok : Token) (mark : String) : Bool :=
  tok.isCode && tok.text == mark

/-- The inside of a literal: its text without the quotes it has.  Any other token's text. -/
def body (tok : Token) : String :=
  if tok.kind.isLiteral then
    let inner := tok.text.toList.tail
    String.ofList (if tok.terminated then inner.dropLast else inner)
  else
    tok.text

end Token

/-- The tokens that are neither comments nor parts of directives. -/
def significant (tokens : List Token) : List Token :=
  tokens.filter Token.isSignificant

end CSurvey
