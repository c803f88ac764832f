import CSurvey.Token.Basic

/-!
# Statements of C

The statements of C as trees, with the words that spell them.  Expressions and
declarations are kept coarse: of their words only the ones that metrics count are
told apart, which are the conditional operator, the two logical operators and the
braces of an initializer or a type.  Each tree lists the constructs it is made of,
and knows how deep its braces nest.
-/

namespace CSurvey

/-- What a token says, apart from where it stands. -/
structure Word where
  kind : TokenKind
  text : String
deriving DecidableEq, Repr

def Token.word (tok : Token) : Word :=
  ⟨tok.kind, tok.text⟩

namespace Word

def code (text : String) : Word :=
  ⟨.code, text⟩

def isOneOf (marks : List String) (word : Word) : Bool :=
  word.kind == .code && marks.contains word.text

/-- The words around which statements and decisions are built. -/
def structural : List String :=
  ["if", "else", "switch", "case", "goto", "for", "while", "do", "?", "&&", "||",
    Token.openBrace, Token.closeBrace]

def opens (word : Word) : Bool :=
  word == code Token.openBrace

def closes (word : Word) : Bool :=
  word == code Token.closeBrace

def parenthesized (words : List Word) : List Word :=
  code "(" :: (words ++ [code ")"])

end Word

/-- A word of an expression, a declaration or a label: names, numbers, literals, parentheses,
operators, and keywords such as `return`, `break` and `default`. -/
structure PlainWord where
  word : Word
  plain : word.isOneOf Word.structural = false

namespace PlainWord

theorem isOneOf_of_subset {marks : List String} (plain : PlainWord)
    (known : marks ⊆ Word.structural) : plain.word.isOneOf marks = false := by
  have other := plain.plain
  simp only [Word.isOneOf, Bool.and_eq_false_iff, List.contains_eq_mem,
    decide_eq_false_iff_not] at other ⊢
  exact other.imp_right (fun outside member => outside (known member))

theorem ne_code (plain : PlainWord) {mark : String} (known : mark ∈ Word.structural) :
    plain.word ≠ .code mark := by
  intro same
  have other := plain.plain
  rw [same, Word.isOneOf, Word.code, List.contains_eq_mem, decide_eq_true known] at other
  cases other

theorem opens_eq_false (plain : PlainWord) : plain.word.opens = false := by
  simpa [Word.opens] using plain.ne_code (show Token.openBrace ∈ Word.structural by decide)

theorem closes_eq_false (plain : PlainWord) : plain.word.closes = false := by
  simpa [Word.closes] using plain.ne_code (show Token.closeBrace ∈ Word.structural by decide)

end PlainWord

/-- What a statement is made of. -/
inductive Construct where
  | conditional
  | alternative
  | switch
  | caseLabel
  | goto
  | choice
  | both
  | either
  | whileLoop
  | forLoop
  /-- A do-loop around a block. -/
  | doBlock
  /-- A do-loop around another statement. -/
  | doOther
deriving DecidableEq, Repr

namespace Construct

/-- The word by which a construct is told. -/
def word : Construct → Word
  | conditional => .code "if"
  | alternative => .code "else"
  | switch => .code "switch"
  | caseLabel => .code "case"
  | goto => .code "goto"
  | choice => .code "?"
  | both => .code "&&"
  | either => .code "||"
  | whileLoop => .code "while"
  | forLoop => .code "for"
  | doBlock | doOther => .code "do"

def isBranch : Construct → Bool
  | conditional | alternative | switch | caseLabel | goto | choice => true
  | _ => false

def isLoop : Construct → Bool
  | whileLoop | forLoop | doBlock | doOther => true
  | _ => false

/-- Whether a construct is a decision and no loop. -/
def isTest : Construct → Bool
  | conditional | caseLabel | choice | both | either => true
  | _ => false

end Construct

/-- An expression or a declaration. -/
inductive Expr where
  | nothing
  | word (plain : PlainWord)
  | pair (first second : Expr)
  | braces (inner : Expr)
  | both (first second : Expr)
  | either (first second : Expr)
  | choice (condition yes no : Expr)

namespace Expr

@[simp]
def words : Expr → List Word
  | nothing => []
  | word plain => [plain.word]
  | pair first second => first.words ++ second.words
  | braces inner => .code Token.openBrace :: (inner.words ++ [.code Token.closeBrace])
  | both first second => first.words ++ .code "&&" :: second.words
  | either first second => first.words ++ .code "||" :: second.words
  | choice condition yes no =>
    condition.words ++ .code "?" :: (yes.words ++ .code ":" :: no.words)

@[simp]
def constructs : Expr → List Construct
  | nothing | word _ => []
  | pair first second => first.constructs ++ second.constructs
  | braces inner => inner.constructs
  | both first second => first.constructs ++ .both :: second.constructs
  | either first second => first.constructs ++ .either :: second.constructs
  | choice condition yes no =>
    condition.constructs ++ .choice :: (yes.constructs ++ no.constructs)

/-- How deep the braces nest. -/
@[simp]
def nesting : Expr → Nat
  | nothing | word _ => 0
  | pair first second | both first second | either first second =>
    max first.nesting second.nesting
  | braces inner => inner.nesting + 1
  | choice condition yes no => max condition.nesting (max yes.nesting no.nesting)

end Expr

mutual

/-- A statement.  A simple one is an expression, a declaration, a `return`, a `break` or a
`continue`, each up to its semicolon; a label is a name or `default`. -/
inductive Stmt where
  | simple (expr : Expr)
  | block (body : Block)
  | ifThen (condition : Expr) (yes : Stmt)
  | ifElse (condition : Expr) (yes no : Stmt)
  | whileLoop (condition : Expr) (body : Stmt)
  | forLoop (first condition later : Expr) (body : Stmt)
  | doLoop (body : Stmt) (condition : Expr)
  | switch (value : Expr) (body : Stmt)
  | caseLabel (value : Expr) (body : Stmt)
  | label (name : PlainWord) (body : Stmt)
  | goto (target : Expr)

/-- The statements between two braces. -/
inductive Block where
  | nil
  | cons (head : Stmt) (tail : Block)

end

def Stmt.isBlock : Stmt → Bool
  | .block _ => true
  | _ => false

mutual

@[simp]
def Stmt.words : Stmt → List Word
  | .simple expr => expr.words ++ [.code ";"]
  | .block body => .code Token.openBrace :: (body.words ++ [.code Token.closeBrace])
  | .ifThen condition yes => .code "if" :: (Word.parenthesized condition.words ++ yes.words)
  | .ifElse condition yes no =>
    .code "if" :: (Word.parenthesized condition.words ++ (yes.words ++ .code "else" :: no.words))
  | .whileLoop condition body =>
    .code "while" :: (Word.parenthesized condition.words ++ body.words)
  | .forLoop first condition later body =>
    .code "for" :: .code "(" :: (first.words ++ .code ";" :: (condition.words ++
      .code ";" :: (later.words ++ .code ")" :: body.words)))
  | .doLoop body condition =>
    .code "do" :: (body.words ++
      .code "while" :: (Word.parenthesized condition.words ++ [.code ";"]))
  | .switch value body => .code "switch" :: (Word.parenthesized value.words ++ body.words)
  | .caseLabel value body => .code "case" :: (value.words ++ .code ":" :: body.words)
  | .label name body => name.word :: .code ":" :: body.words
  | .goto target => .code "goto" :: (target.words ++ [.code ";"])

@[simp]
def Block.words : Block → List Word
  | .nil => []
  | .cons head tail => head.words ++ tail.words

end

mutual

@[simp]
def Stmt.constructs : Stmt → List Construct
  | .simple expr => expr.constructs
  | .block body => body.constructs
  | .ifThen condition yes => .conditional :: (condition.constructs ++ yes.constructs)
  | .ifElse condition yes no =>
    .conditional :: (condition.constructs ++ (yes.constructs ++ .alternative :: no.constructs))
  | .whileLoop condition body => .whileLoop :: (condition.constructs ++ body.constructs)
  | .forLoop first condition later body =>
    .forLoop :: (first.constructs ++ (condition.constructs ++
      (later.constructs ++ body.constructs)))
  | .doLoop body condition =>
    (if body.isBlock then .doBlock else .doOther) :: (body.constructs ++ condition.constructs)
  | .switch value body => .switch :: (value.constructs ++ body.constructs)
  | .caseLabel value body => .caseLabel :: (value.constructs ++ body.constructs)
  | .label _ body => body.constructs
  | .goto target => .goto :: target.constructs

@[simp]
def Block.constructs : Block → List Construct
  | .nil => []
  | .cons head tail => head.constructs ++ tail.constructs

end

mutual

/-- How deep the braces of a statement nest, its own included. -/
@[simp]
def Stmt.nesting : Stmt → Nat
  | .simple expr | .goto expr => expr.nesting
  | .block body => body.nesting + 1
  | .ifThen condition body | .whileLoop condition body | .switch condition body
  | .caseLabel condition body => max condition.nesting body.nesting
  | .doLoop body condition => max body.nesting condition.nesting
  | .ifElse condition yes no => max condition.nesting (max yes.nesting no.nesting)
  | .forLoop first condition later body =>
    max first.nesting (max condition.nesting (max later.nesting body.nesting))
  | .label _ body => body.nesting

@[simp]
def Block.nesting : Block → Nat
  | .nil => 0
  | .cons head tail => max head.nesting tail.nesting

end

end CSurvey
