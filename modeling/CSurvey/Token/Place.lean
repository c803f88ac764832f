import CSurvey.Token.Basic

/-!
# Tokens in context

A place is a token together with the tokens before it, nearest first, and those
after it.  Rules that look around a token are predicates on its place.
-/

namespace CSurvey

/-- A token of a list with what stands before it, nearest first, and after it. -/
structure Place where
  before : List Token
  here : Token
  after : List Token
deriving DecidableEq, Repr

namespace Place

/-- The places of `tokens` when the tokens `before` precede them, nearest first. -/
def allFrom (before : List Token) : List Token → List Place
  | [] => []
  | tok :: rest => ⟨before, tok, rest⟩ :: allFrom (tok :: before) rest

def all (tokens : List Token) : List Place :=
  allFrom [] tokens

def previous (place : Place) : Option Token :=
  place.before.head?

def next (place : Place) : Option Token :=
  place.after.head?

/-- The whole list that a place belongs to. -/
def tokens (place : Place) : List Token :=
  place.before.reverse ++ place.here :: place.after

theorem map_here_allFrom (before tokens : List Token) :
    (allFrom before tokens).map Place.here = tokens := by
  induction tokens generalizing before with
  | nil => rfl
  | cons tok rest ih => simp [allFrom, ih]

@[simp]
theorem map_here_all (tokens : List Token) : (all tokens).map Place.here = tokens :=
  map_here_allFrom [] tokens

theorem tokens_of_mem_allFrom {before tokens : List Token} {place : Place}
    (member : place ∈ allFrom before tokens) : place.tokens = before.reverse ++ tokens := by
  induction tokens generalizing before with
  | nil => simp [allFrom] at member
  | cons tok rest ih =>
    rcases List.mem_cons.1 member with rfl | member
    · rfl
    · simpa using ih member

theorem tokens_of_mem_all {tokens : List Token} {place : Place}
    (member : place ∈ all tokens) : place.tokens = tokens := by
  simpa using tokens_of_mem_allFrom member

end Place

namespace Token

/-- Whether an optional token is code with this text. -/
def punctAt (tok : Option Token) (mark : String) : Bool :=
  tok.any (·.isPunct mark)

end Token

/-- Bracketed tokens: what stands between the brackets, the closing one, and what follows. -/
structure Bracketed where
  inner : List Token
  close : Token
  rest : List Token
deriving DecidableEq, Repr

namespace Bracketed

/-- Find the mark that closes the `level` open marks; `inner` holds the tokens passed, latest
first. -/
def findClose (opening closing : String) : Nat → List Token → List Token → Option Bracketed
  | _, _, [] => none
  | level, inner, tok :: rest =>
    if tok.isPunct opening then findClose opening closing (level + 1) (tok :: inner) rest
    else if tok.isPunct closing then
      if level ≤ 1 then some ⟨inner.reverse, tok, rest⟩
      else findClose opening closing (level - 1) (tok :: inner) rest
    else findClose opening closing level (tok :: inner) rest

/-- The bracketed tokens at the front of a list, if it begins with the opening mark and the
mark is closed. -/
def ofTokens? (opening closing : String) : List Token → Option Bracketed
  | [] => none
  | tok :: rest => if tok.isPunct opening then findClose opening closing 1 [] rest else none

end Bracketed

end CSurvey
