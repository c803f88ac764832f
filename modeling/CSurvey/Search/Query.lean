import CSurvey.Fault
import CSurvey.Text.Search

/-!
# Search queries

What a search looks at, and the pattern it looks for: a regular expression, or a
text that is taken as it is.  How regular expressions are read and what they match is
left to a compiler of patterns.
-/

namespace CSurvey

/-- What a search looks at. -/
inductive SearchKind where
  /-- Names before a parenthesis. -/
  | function
  /-- Names that no parenthesis follows. -/
  | variableName
  /-- The insides of literals. -/
  | string
  | comment
  /-- The whole text. -/
  | any
deriving DecidableEq, Repr, Inhabited

namespace SearchKind

def all : List SearchKind :=
  [function, variableName, string, comment, any]

def name : SearchKind → String
  | function => "function"
  | variableName => "variable"
  | string => "string"
  | comment => "comment"
  | any => "any"

/-- Other words for a kind. -/
def shortNames : SearchKind → List String
  | function => ["func"]
  | variableName => ["var"]
  | string => ["str"]
  | comment => []
  | any => ["all", "regex"]

/-- The kind with a given name in a query record, exactly as written. -/
def ofName? (name : String) : Option SearchKind :=
  if ["regex", "all"].contains name then some any
  else all.find? (fun kind => kind.name == name)

/-- The kind that a word names, whatever the case of its letters. -/
def parse (word : String) : Except Fault SearchKind :=
  let lower := Text.lower word
  match all.find? (fun kind => (kind.name :: kind.shortNames).contains lower) with
  | some kind => .ok kind
  | none => .error (.argument (.unknownSearchKind lower))

end SearchKind

/-- A part of a text, after what lies between it and the part before. -/
structure Hit where
  gap : List Char
  text : List Char
deriving DecidableEq, Repr

/-- A pattern that has been compiled, as far as searches use it. -/
structure CompiledPattern where
  /-- Whether it matches somewhere in a text. -/
  isMatch : List Char → Bool
  /-- Its matches in a text one after another. -/
  hits : List Char → List Hit

/-- What a pattern is compiled to, or what is wrong with it. -/
abbrev PatternCompiler :=
  String → Except String CompiledPattern

structure SearchQuery where
  pattern : String
  kind : SearchKind
  /-- Whether the pattern stands for itself. -/
  literal : Bool
deriving DecidableEq, Repr

/-- What a query looks for. -/
inductive Matcher where
  /-- Nothing, for an empty pattern. -/
  | never
  /-- A text that is not empty. -/
  | exact (text : List Char)
  | regex (pattern : CompiledPattern)

namespace Matcher

/-- The occurrences of a text after the first `skip` characters, which belong to the last one.
`gap` holds the characters since that one, latest first. -/
def exactHits (text : List Char) : List Char → Nat → List Char → List Hit
  | _, _, [] => []
  | gap, skip + 1, _ :: rest => exactHits text gap skip rest
  | gap, 0, c :: rest =>
    if text.isPrefixOf (c :: rest) then
      ⟨gap.reverse, text⟩ :: exactHits text [] (text.length - 1) rest
    else exactHits text (c :: gap) 0 rest

/-- The matches in a text one after another. -/
def hits : Matcher → List Char → List Hit
  | never, _ => []
  | exact text, cs => exactHits text [] 0 cs
  | regex pattern, cs => pattern.hits cs

/-- Whether a name matches; a text that stands for itself has to be the whole name. -/
def matchesName : Matcher → List Char → Bool
  | never, _ => false
  | exact text, cs => text == cs
  | regex pattern, cs => pattern.isMatch cs

end Matcher

namespace SearchQuery

/-- What a query looks for, if its pattern is valid. -/
def matcher (compile : PatternCompiler) (query : SearchQuery) : Except Fault Matcher :=
  if query.pattern.isEmpty then .ok .never
  else if query.literal then .ok (.exact query.pattern.toList)
  else
    match compile query.pattern with
    | .ok pattern => .ok (.regex pattern)
    | .error reason => .error (.argument (.invalidPattern query.pattern reason))

end SearchQuery

end CSurvey
