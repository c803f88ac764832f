import CSurvey.Token.Place

/-!
# Tokens in another place

The same text can stand at different places of different texts.  Its tokens then
differ in their spans and in the parentheses open around them, and in nothing
else.  Whatever is decided from the other fields is decided in the same way in
both places.  That is so whatever becomes of the spans; if all tokens move by as
many bytes and lines, the spans that are found in them move as well.
-/

namespace CSurvey

/-- By how many bytes and lines something is moved. -/
structure Shift where
  bytes : Nat
  lines : Nat
deriving DecidableEq, Repr

namespace Shift

/-- Nothing is moved. -/
def zero : Shift :=
  ⟨0, 0⟩

end Shift

namespace Span

/-- The span that many bytes and lines further on. -/
def moved (shift : Shift) (span : Span) : Span :=
  ⟨span.start + shift.bytes, span.stop + shift.bytes, span.line + shift.lines,
    span.endLine + shift.lines⟩

@[simp]
theorem map_moved_zero (spans : List Span) : spans.map (moved .zero) = spans :=
  List.map_id' spans

/-- A change of spans that keeps what covers two spans together. -/
def KeepsJoins (move : Span → Span) : Prop :=
  ∀ first second : Span, (move first).join (move second) = move (first.join second)

theorem keepsJoins_moved (shift : Shift) : KeepsJoins (moved shift) := by
  intro first second
  simp [join, moved, Nat.add_min_add_right, Nat.add_max_add_right]

/-- All spans may become the same one. -/
theorem keepsJoins_zero : KeepsJoins (fun _ => zero) :=
  fun _ _ => rfl

end Span

namespace Token

/-- The token at another span, outside all parentheses. -/
def relocated (move : Span → Span) (tok : Token) : Token :=
  { tok with span := move tok.span, parenDepth := 0 }

/-- The token that many bytes and lines further on, outside all parentheses. -/
def moved (shift : Shift) (tok : Token) : Token :=
  { tok with span := tok.span.moved shift, parenDepth := 0 }

section Fields

variable (move : Span → Span) (tok : Token)

@[simp] theorem kind_relocated : (tok.relocated move).kind = tok.kind := rfl

@[simp] theorem text_relocated : (tok.relocated move).text = tok.text := rfl

@[simp] theorem depth_relocated : (tok.relocated move).depth = tok.depth := rfl

@[simp] theorem span_relocated : (tok.relocated move).span = move tok.span := rfl

@[simp] theorem isCode_relocated : (tok.relocated move).isCode = tok.isCode := rfl

@[simp] theorem isIdent_relocated : (tok.relocated move).isIdent = tok.isIdent := rfl

@[simp] theorem isName_relocated : (tok.relocated move).isName = tok.isName := rfl

@[simp] theorem isPunct_relocated (mark : String) :
    (tok.relocated move).isPunct mark = tok.isPunct mark := rfl

@[simp] theorem body_relocated : (tok.relocated move).body = tok.body := rfl

end Fields

@[simp]
theorem punctAt_relocated (move : Span → Span) (tok : Option Token) (mark : String) :
    punctAt (tok.map (relocated move)) mark = punctAt tok mark := by
  cases tok <;> rfl

end Token

theorem significant_relocated (move : Span → Span) (tokens : List Token) :
    significant (tokens.map (Token.relocated move)) =
      (significant tokens).map (Token.relocated move) := by
  rw [significant, List.filter_map]
  rfl

theorem significant_moved (shift : Shift) (tokens : List Token) :
    significant (tokens.map (Token.moved shift)) =
      (significant tokens).map (Token.moved shift) :=
  significant_relocated (Span.moved shift) tokens

namespace Place

/-- The place among the relocated tokens. -/
def relocated (move : Span → Span) (place : Place) : Place :=
  ⟨place.before.map (Token.relocated move), place.here.relocated move,
    place.after.map (Token.relocated move)⟩

@[simp] theorem here_relocated (move : Span → Span) (place : Place) :
    (place.relocated move).here = place.here.relocated move := rfl

@[simp] theorem before_relocated (move : Span → Span) (place : Place) :
    (place.relocated move).before = place.before.map (Token.relocated move) := rfl

@[simp] theorem after_relocated (move : Span → Span) (place : Place) :
    (place.relocated move).after = place.after.map (Token.relocated move) := rfl

@[simp]
theorem previous_relocated (move : Span → Span) (place : Place) :
    (place.relocated move).previous = place.previous.map (Token.relocated move) := by
  simp [previous]

@[simp]
theorem next_relocated (move : Span → Span) (place : Place) :
    (place.relocated move).next = place.next.map (Token.relocated move) := by
  simp [next]

theorem allFrom_relocated (move : Span → Span) (before tokens : List Token) :
    allFrom (before.map (Token.relocated move)) (tokens.map (Token.relocated move)) =
      (allFrom before tokens).map (relocated move) := by
  induction tokens generalizing before with
  | nil => rfl
  | cons tok rest ih => exact congrArg (List.cons _) (ih (tok :: before))

theorem all_relocated (move : Span → Span) (tokens : List Token) :
    all (tokens.map (Token.relocated move)) = (all tokens).map (relocated move) :=
  allFrom_relocated move [] tokens

end Place

namespace Bracketed

/-- The bracketed tokens among the relocated tokens. -/
def relocated (move : Span → Span) (group : Bracketed) : Bracketed :=
  ⟨group.inner.map (Token.relocated move), group.close.relocated move,
    group.rest.map (Token.relocated move)⟩

theorem findClose_relocated (move : Span → Span) (opening closing : String) (level : Nat)
    (inner tokens : List Token) :
    findClose opening closing level (inner.map (Token.relocated move))
        (tokens.map (Token.relocated move)) =
      (findClose opening closing level inner tokens).map (relocated move) := by
  fun_induction findClose opening closing level inner tokens with
  | case1 => rfl
  | case2 level inner tok rest opens ih =>
    simp only [List.map_cons, findClose, Token.isPunct_relocated, opens, if_true]
    exact ih
  | case3 level inner tok rest notOpen closes last =>
    simp only [List.map_cons, findClose, Token.isPunct_relocated, notOpen, closes, last, if_true]
    simp [relocated]
  | case4 level inner tok rest notOpen closes further ih =>
    simp only [List.map_cons, findClose, Token.isPunct_relocated, notOpen, closes, further, if_true]
    exact ih
  | case5 level inner tok rest notOpen notClose ih =>
    simp only [List.map_cons, findClose, Token.isPunct_relocated, notOpen, notClose]
    exact ih

theorem ofTokens?_relocated (move : Span → Span) (opening closing : String) (tokens : List Token) :
    ofTokens? opening closing (tokens.map (Token.relocated move)) =
      (ofTokens? opening closing tokens).map (relocated move) := by
  cases tokens with
  | nil => rfl
  | cons tok rest =>
    by_cases opens : tok.isPunct opening = true
    · simp only [List.map_cons, ofTokens?, Token.isPunct_relocated, opens, if_true]
      exact findClose_relocated move opening closing 1 [] rest
    · simp [ofTokens?, opens]

end Bracketed

end CSurvey
