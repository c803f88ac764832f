import CSurvey.Tally
import CSurvey.Token.Place

/-!
# Call sites

A call site is a name that is not reserved, stands right before an opening
parenthesis, and is not a member reached through `.` or `->`.  The arguments of a
call are the stretches of tokens between the commas at the first level of its
parentheses and brackets.
-/

namespace CSurvey

/-- The name of a callee and where it stands. -/
structure CallSite where
  name : String
  span : Span
deriving DecidableEq, Repr

namespace Place

def isCall (place : Place) : Bool :=
  place.here.isName && Token.punctAt place.next "(" &&
    !(Token.punctAt place.previous "." || Token.punctAt place.previous "->")

end Place

/-- The places of the call sites among significant tokens, in order. -/
def callPlaces (tokens : List Token) : List Place :=
  (Place.all tokens).filter Place.isCall

/-- The call sites among significant tokens, in order. -/
def callSites (tokens : List Token) : List CallSite :=
  (callPlaces tokens).map (fun place => ⟨place.here.text, place.here.span⟩)

/-- How often each name is called among significant tokens. -/
def countCalls (tokens : List Token) : Tally :=
  Tally.ofNames ((callSites tokens).map CallSite.name)

/-- The arguments of a call, the token that ends them, and what follows it.  `closed` tells
whether that token closes the call or the tokens just end. -/
structure Arguments where
  args : List (List Token)
  close : Token
  rest : List Token
  closed : Bool
deriving DecidableEq, Repr

namespace Arguments

/-- Read arguments when `level` brackets are open.  `args` holds the arguments read, latest first,
`current` the tokens of the one being read, latest first, and `last` is the last token passed. -/
def collect (level : Nat) (args : List (List Token)) (current : List Token) (last : Token) :
    List Token → Arguments
  | [] =>
    ⟨(if current.isEmpty then args else current.reverse :: args).reverse, last, [], false⟩
  | tok :: rest =>
    if tok.isPunct "(" || tok.isPunct "[" then
      collect (level + 1) args (tok :: current) tok rest
    else if tok.isPunct ")" || tok.isPunct "]" then
      if level ≤ 1 then
        let all := if current.isEmpty && args.isEmpty then args else current.reverse :: args
        ⟨all.reverse, tok, rest, true⟩
      else collect (level - 1) args (tok :: current) tok rest
    else if tok.isPunct "," && level == 1 then
      collect level (current.reverse :: args) [] tok rest
    else collect level args (tok :: current) tok rest

end Arguments

/-- The arguments of the call whose name stands at `place`. -/
def Place.arguments (place : Place) : Arguments :=
  match place.after with
  | [] => ⟨[], place.here, [], false⟩
  | opening :: rest => Arguments.collect 1 [] [] opening rest

end CSurvey
