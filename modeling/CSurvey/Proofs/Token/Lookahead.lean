import CSurvey.Proofs.Token.Layout
import Mathlib.Data.List.TakeWhile

/-!
# What a token depends on

The scanner looks past a token at one character, or at two after a period.  So a
token is read in the same way before any other text that begins alike, and a run
of the scanner is determined by the characters that it passes and the next one.

Apart from where it stands, the scanner knows the braces and parentheses that are
open and how the line and its directive go on.  Two scanners that know the same
read the same tokens from the same text, at whatever bytes and lines they stand.
-/

namespace CSurvey

namespace Lexeme

theorem takeWhile_congr {test : Char → Bool} {more rest other : List Char}
    (read : (more ++ rest).takeWhile test = more) (head : rest.head? = other.head?) :
    (more ++ other).takeWhile test = more := by
  have inside : ∀ c ∈ more, test c = true := by
    intro c member
    rw [← read] at member
    exact List.mem_takeWhile_imp member
  rw [List.takeWhile_append_of_pos inside] at read ⊢
  have stops : rest.takeWhile test = [] := by simpa using read
  cases rest <;> cases other <;> simp_all

theorem blockRest_ne_nil {cs : List Char} (nonempty : cs ≠ []) : (blockRest cs).1 ≠ [] := by
  fun_cases blockRest cs with
  | case1 => exact absurd rfl nonempty
  | case2 => simp
  | case3 => simp_all

theorem blockRest_cons {c : Char} {rest : List Char}
    (other : ¬ (c = '*' ∧ rest.head? = some '/')) :
    blockRest (c :: rest) = (c :: (blockRest rest).1, (blockRest rest).2) := by
  rw [blockRest]
  rintro tail rfl rfl
  exact other ⟨rfl, rfl⟩

/-- A block comment that something follows is read in the same way whatever follows. -/
theorem blockRest_congr {more rest : List Char} {closed : Bool}
    (read : blockRest (more ++ rest) = (more, closed)) (nonempty : rest ≠ [])
    (other : List Char) : blockRest (more ++ other) = (more, closed) := by
  induction more generalizing closed with
  | nil =>
    have empty := congrArg Prod.fst read
    exact absurd empty (blockRest_ne_nil nonempty)
  | cons c more ih =>
    by_cases ends : c = '*' ∧ (more ++ rest).head? = some '/'
    · obtain ⟨rfl, slash⟩ := ends
      obtain ⟨tail, eq⟩ := List.head?_eq_some_iff.1 slash
      rw [List.cons_append, eq] at read
      have whole : (['*', '/'], true) = ('*' :: more, closed) := read
      simp only [Prod.mk.injEq, List.cons.injEq, true_and] at whole
      obtain ⟨rfl, rfl⟩ := whole
      rfl
    · rw [List.cons_append, blockRest_cons ends, Prod.mk.injEq, List.cons.injEq] at read
      have inner : blockRest (more ++ rest) = (more, closed) := Prod.ext read.1.2 read.2
      have moreNonempty : more ≠ [] := by
        rintro rfl
        exact blockRest_ne_nil nonempty (congrArg Prod.fst inner)
      have same : (more ++ other).head? = (more ++ rest).head? := by
        obtain ⟨d, more, rfl⟩ := List.exists_cons_of_ne_nil moreNonempty
        rfl
      rw [List.cons_append, blockRest_cons (same ▸ ends), ih inner]

theorem literalRest_cons {quote c : Char} (plain : c ≠ '\\') (rest : List Char) :
    literalRest quote (c :: rest) =
      if c = quote then ([c], true)
      else if c = '\n' then ([], false)
      else (c :: (literalRest quote rest).1, (literalRest quote rest).2) := by
  rw [literalRest] <;> simp_all

theorem ne_backslash {c : Char} {rest : List Char} (notLast : c = '\\' → rest = [] → False)
    (notEscape : ∀ d tail, c = '\\' → rest = d :: tail → False) : c ≠ '\\' := by
  rintro rfl
  cases rest with
  | nil => exact notLast rfl rfl
  | cons d tail => exact notEscape d tail rfl rfl

/-- A literal that something follows is read in the same way before what begins alike. -/
theorem literalRest_congr {quote : Char} {more rest other : List Char} {closed : Bool}
    (read : literalRest quote (more ++ rest) = (more, closed)) (nonempty : rest ≠ [])
    (head : rest.head? = other.head?) :
    literalRest quote (more ++ other) = (more, closed) := by
  generalize eq : more ++ rest = text at read
  fun_induction literalRest quote text generalizing more closed with
  | case1 => exact absurd (List.append_eq_nil_iff.1 eq).2 nonempty
  | case2 =>
    obtain rfl : ['\\'] = more := congrArg Prod.fst read
    exact absurd (List.append_right_eq_self.1 eq) nonempty
  | case3 c tail inner innerClosed step ih =>
    obtain ⟨rfl, rfl⟩ : '\\' :: c :: inner = more ∧ innerClosed = closed := by simpa using read
    simp only [List.cons_append, List.cons.injEq, true_and] at eq
    rw [List.cons_append, List.cons_append, literalRest, ih eq step]
  | case4 tail notLast notEscape =>
    obtain ⟨rfl, rfl⟩ : [quote] = more ∧ true = closed := by simpa using read
    rw [List.cons_append, literalRest_cons (ne_backslash notLast notEscape), if_pos rfl]
  | case5 tail notLast notEscape notQuote =>
    obtain ⟨rfl, rfl⟩ : [] = more ∧ false = closed := by simpa using read
    rw [List.nil_append] at eq
    rw [eq, List.head?_cons] at head
    obtain ⟨following, rfl⟩ := List.head?_eq_some_iff.1 head.symm
    rw [List.nil_append, literalRest_cons (by decide), if_neg notQuote, if_pos rfl]
  | case6 c tail notLast notEscape notQuote notNewline inner innerClosed step ih =>
    obtain ⟨rfl, rfl⟩ : c :: inner = more ∧ innerClosed = closed := by simpa using read
    rw [List.cons_append, List.cons.injEq] at eq
    rw [List.cons_append, literalRest_cons (ne_backslash notLast notEscape), if_neg notQuote,
      if_neg notNewline, ih eq.2 step]

/-- The two ways in which what follows a token bears on it. -/
structure Alike (rest other : List Char) : Prop where
  head : rest.head? = other.head?
  nonempty : rest ≠ []
  dots : (rest.take 2 == ['.', '.']) = (other.take 2 == ['.', '.'])

theorem Alike.head_append {rest other : List Char} (alike : Alike rest other)
    (more : List Char) : (more ++ rest).head? = (more ++ other).head? := by
  rw [List.head?_append, List.head?_append, alike.head]

/-- An operator or another mark is read in the same way before texts that begin alike. -/
theorem mark_congr {c : Char} {more rest other : List Char} {kind : TokenKind} {closed : Bool}
    (read : (if c = '.' && (more ++ rest).take 2 == ['.', '.'] then (.code, ['.', '.'], true)
      else if (more ++ rest).head?.any (fun d => pairs.contains (c, d)) then
        (.code, (more ++ rest).take 1, true)
      else (.code, [], true)) = (kind, more, closed)) (alike : Alike rest other) :
    (if c = '.' && (more ++ other).take 2 == ['.', '.'] then (.code, ['.', '.'], true)
      else if (more ++ rest).head?.any (fun d => pairs.contains (c, d)) then
        (.code, (more ++ other).take 1, true)
      else (.code, [], true)) = (kind, more, closed) := by
  obtain ⟨d, restTail, rfl⟩ := List.exists_cons_of_ne_nil alike.nonempty
  obtain ⟨otherTail, rfl⟩ := List.head?_eq_some_iff.1 (alike.head.symm.trans List.head?_cons)
  split at read
  · rename_i dots
    obtain ⟨rfl, rfl, rfl⟩ := by simpa only [Prod.mk.injEq] using read
    have period : c = '.' := by simp_all
    simp [period]
  rename_i notDots
  split at read
  · rename_i pair
    obtain ⟨rfl, taken, rfl⟩ := by simpa only [Prod.mk.injEq] using read
    cases more with
    | nil => simp at taken
    | cons e more =>
      obtain rfl : more = [] := by simpa using taken.symm
      rw [if_neg (by simpa using notDots), if_pos pair]
      rfl
  · rename_i notPair
    obtain ⟨rfl, rfl, rfl⟩ := by simpa only [Prod.mk.injEq] using read
    have dots := alike.dots
    rw [List.nil_append] at notDots ⊢
    rw [dots] at notDots
    rw [if_neg notDots, if_neg notPair]

/-- A token is read in the same way before texts that begin alike. -/
theorem after_congr {c : Char} {more rest other : List Char} {kind : TokenKind} {closed : Bool}
    (read : after c (more ++ rest) = (kind, more, closed)) (alike : Alike rest other) :
    after c (more ++ other) = (kind, more, closed) := by
  have head := alike.head_append more
  unfold after at read ⊢
  rw [← head]
  split at read
  · rename_i line
    obtain ⟨rfl, taken, rfl⟩ := by simpa only [Prod.mk.injEq] using read
    rw [if_pos line, takeWhile_congr taken alike.head]
  rename_i notLine
  rw [if_neg notLine]
  split at read
  · rename_i block
    simp only [Prod.mk.injEq] at read
    obtain ⟨rfl, taken, ends⟩ := read
    obtain ⟨inner, rfl⟩ : ∃ inner, more = '*' :: inner := ⟨_, taken.symm⟩
    simp only [List.cons_append, List.tail_cons, List.cons.injEq, true_and] at taken ends
    have inside := blockRest_congr (Prod.ext taken ends) alike.nonempty other
    rw [if_pos block, List.cons_append, List.tail_cons, inside]
  rename_i notBlock
  rw [if_neg notBlock]
  split at read
  · rename_i quote
    simp only [Prod.mk.injEq] at read
    obtain ⟨rfl, taken, ends⟩ := read
    rw [if_pos quote, literalRest_congr (Prod.ext taken ends) alike.nonempty alike.head]
  rename_i notString
  rw [if_neg notString]
  split at read
  · rename_i quote
    simp only [Prod.mk.injEq] at read
    obtain ⟨rfl, taken, ends⟩ := read
    rw [if_pos quote, literalRest_congr (Prod.ext taken ends) alike.nonempty alike.head]
  rename_i notChar
  rw [if_neg notChar]
  split at read
  · rename_i word
    obtain ⟨rfl, taken, rfl⟩ := by simpa only [Prod.mk.injEq] using read
    rw [if_pos word, takeWhile_congr taken alike.head]
  rename_i notWord
  rw [if_neg notWord]
  exact mark_congr read alike

theorem alike_append (passed : List Char) {d : Char} (solid : d ≠ '.') (left other : List Char) :
    Alike (passed ++ d :: left) (passed ++ d :: other) where
  head := by cases passed <;> rfl
  nonempty := by simp
  dots := by
    match passed with
    | [] => simp [beq_eq_false_iff_ne.2 solid]
    | [_] => rfl
    | _ :: _ :: _ => rfl

end Lexeme

namespace ScanState

/-- A step passes some characters, and it does so before other texts that begin alike. -/
theorem Step.cut {first second : ScanState} {cs passed : List Char} {tokens : List Token}
    {d : Char} {left : List Char} (step : Step first cs tokens second (passed ++ d :: left))
    (solid : d ≠ '.') :
    ∃ front, cs = front ++ (passed ++ d :: left) ∧
      ∀ other, Step first (front ++ (passed ++ d :: other)) tokens second
        (passed ++ d :: other) := by
  generalize eq : passed ++ d :: left = rest at step
  cases step with
  | newline => exact ⟨['\n'], by simp, fun other => .newline first _⟩
  | @gap c rest blank => exact ⟨[c], by simp, fun other => .gap first _ blank⟩
  | @token c kind more closed rest separator read =>
    subst eq
    exact ⟨c :: more, rfl, fun other => .token first _ separator
      (Lexeme.after_congr read (Lexeme.alike_append passed solid left other))⟩

/-- A run depends on the characters that it passes and on the next one. -/
theorem Run.cut {first last : ScanState} {cs : List Char} {tokens : List Token} {d : Char}
    {left : List Char} (run : Run first cs tokens last (d :: left)) (solid : d ≠ '.') :
    ∃ front, cs = front ++ d :: left ∧
      ∀ other, Run first (front ++ d :: other) tokens last (d :: other) := by
  generalize eq : d :: left = rest at run
  induction run with
  | done =>
    subst eq
    exact ⟨[], rfl, fun other => .done _ _⟩
  | step head tail ih =>
    subst eq
    obtain ⟨front, rfl, runs⟩ := ih rfl
    obtain ⟨more, rfl, steps⟩ := head.cut solid
    exact ⟨more ++ front, by simp, fun other =>
      by simpa using Run.step (steps other) (runs other)⟩

theorem Run.split {first last : ScanState} {cs rest : List Char} {front back : List Token}
    {tok : Token} (run : Run first cs (front ++ tok :: back) last rest) :
    ∃ state c kind more closed left, Run first cs front state (c :: (more ++ left)) ∧
      Lexeme.isSeparator c = false ∧ Lexeme.after c (more ++ left) = (kind, more, closed) ∧
      tok = ((state.opened c).emit kind (c :: more) closed).1 ∧
      Run ((state.opened c).emit kind (c :: more) closed).2 left back last rest := by
  generalize eq : front ++ tok :: back = tokens at run
  induction run generalizing front with
  | done => simp at eq
  | step head tail ih =>
    cases head with
    | newline =>
      obtain ⟨state, c, kind, more, closed, left, before, found⟩ := ih eq
      exact ⟨state, c, kind, more, closed, left, .step (.newline ..) before, found⟩
    | gap rest blank =>
      obtain ⟨state, c, kind, more, closed, left, before, found⟩ := ih eq
      exact ⟨state, c, kind, more, closed, left, .step (.gap _ _ blank) before, found⟩
    | @token c kind more closed rest solid read =>
      rw [List.singleton_append] at eq
      cases front with
      | nil =>
        obtain ⟨rfl, rfl⟩ := List.cons.inj eq
        exact ⟨_, c, kind, more, closed, _, .done _ _, solid, read, rfl, tail⟩
      | cons first front =>
        obtain ⟨rfl, same⟩ := List.cons.inj eq
        obtain ⟨state, d, other, others, ends, left, before, found⟩ := ih same
        exact ⟨state, d, other, others, ends, left, .step (.token _ _ solid read) before, found⟩

/-- A run passes characters and knows where it stands after them. -/
theorem Run.passes {first last : ScanState} {cs rest passed : List Char} {tokens : List Token}
    (run : Run first cs tokens last rest) (here : At passed first) :
    ∃ front, cs = front ++ rest ∧ At (passed ++ front) last := by
  induction run generalizing passed with
  | done => exact ⟨[], rfl, by simpa using here⟩
  | step head tail ih =>
    cases head with
    | newline =>
      obtain ⟨front, rfl, there⟩ := ih here.newline
      exact ⟨'\n' :: front, rfl, by simpa using there⟩
    | @gap c rest blank =>
      obtain ⟨front, rfl, there⟩ := ih (here.gap blank)
      exact ⟨c :: front, rfl, by simpa using there⟩
    | @token c kind more closed rest solid read =>
      obtain ⟨front, rfl, there⟩ := ih ((here.opened c).emit kind (c :: more) closed)
      exact ⟨c :: (more ++ front), by simp, by simpa using there⟩

end ScanState

namespace Token

/-- A token wherever it stands. -/
def unplaced (tok : Token) : Token :=
  { tok with span := .zero }

@[simp]
theorem isSignificant_unplaced (tok : Token) : tok.unplaced.isSignificant = tok.isSignificant :=
  rfl

end Token

theorem significant_unplaced (tokens : List Token) :
    (significant tokens).map Token.unplaced = significant (tokens.map Token.unplaced) := by
  rw [significant, significant, List.filter_map]
  rfl

namespace ScanState

/-- Two states of the scanner that differ only in where they stand. -/
structure SameMode (own other : ScanState) : Prop where
  depth : other.depth = own.depth
  parens : other.parens = own.parens
  lineHasCode : other.lineHasCode = own.lineHasCode
  inDirective : other.inDirective = own.inDirective
  backslash : other.backslash = own.backslash

namespace SameMode

variable {own other : ScanState}

theorem refl (state : ScanState) : SameMode state state :=
  ⟨rfl, rfl, rfl, rfl, rfl⟩

theorem newline (same : SameMode own other) : SameMode own.newline other.newline where
  depth := same.depth
  parens := same.parens
  lineHasCode := rfl
  inDirective := by simp only [ScanState.newline, same.inDirective, same.backslash]
  backslash := rfl

theorem gap (same : SameMode own other) (c : Char) : SameMode (own.gap c) (other.gap c) where
  depth := same.depth
  parens := same.parens
  lineHasCode := same.lineHasCode
  inDirective := same.inDirective
  backslash := by simp only [ScanState.gap, same.backslash]

theorem opened (same : SameMode own other) (c : Char) :
    SameMode (own.opened c) (other.opened c) := by
  unfold ScanState.opened
  rw [same.lineHasCode]
  split
  · exact ⟨same.depth, same.parens, rfl, rfl, same.backslash⟩
  · exact same

section Emit

variable {kind : TokenKind} {more others : List Char}

/-- A token of two spellings is alike if only code is spelled in one way. -/
theorem emit_token (same : SameMode own other) (code : kind = .code → others = more)
    (closed : Bool) :
    (other.emit kind others closed).1.depth = (own.emit kind more closed).1.depth ∧
      (other.emit kind others closed).1.parenDepth = (own.emit kind more closed).1.parenDepth ∧
      (other.emit kind others closed).1.directive = (own.emit kind more closed).1.directive := by
  by_cases isCode : kind = .code
  · obtain rfl := code isCode
    simp only [ScanState.emit, same.depth, same.parens, same.inDirective, and_self]
  · have notCode : (kind == .code) = false := beq_false_of_ne isCode
    simp only [ScanState.emit, same.depth, same.parens, same.inDirective, notCode, Bool.false_and,
      Bool.false_eq_true, if_false, and_self]

/-- A token of two spellings leaves the same open. -/
theorem emit (same : SameMode own other) (code : kind = .code → others = more)
    (ends : endsInBackslash others = endsInBackslash more) (closed : Bool) :
    SameMode (own.emit kind more closed).2 (other.emit kind others closed).2 := by
  by_cases isCode : kind = .code
  · obtain rfl := code isCode
    constructor <;>
      simp only [ScanState.emit, same.depth, same.parens, same.lineHasCode, same.inDirective]
  · have notCode : (kind == .code) = false := beq_false_of_ne isCode
    constructor <;>
      simp only [ScanState.emit, same.depth, same.parens, same.lineHasCode, same.inDirective, ends,
        notCode, Bool.false_and, Bool.false_eq_true, if_false]

theorem emit_unplaced (same : SameMode own other) (kind : TokenKind) (cs : List Char)
    (closed : Bool) :
    (other.emit kind cs closed).1.unplaced = (own.emit kind cs closed).1.unplaced := by
  simp only [ScanState.emit, Token.unplaced, same.depth, same.parens, same.inDirective]

end Emit

end SameMode

/-- The same tokens are read wherever the scanner stands. -/
theorem Run.scan_unplaced {own other last : ScanState} {cs : List Char} {tokens : List Token}
    (run : Run own cs tokens last []) (same : SameMode own other) :
    (other.scan 0 cs).map Token.unplaced = tokens.map Token.unplaced := by
  generalize nothing : ([] : List Char) = rest at run
  induction run generalizing other with
  | done =>
    subst nothing
    rfl
  | step head tail ih =>
    subst nothing
    cases head with
    | newline =>
      rw [(Step.newline other _).scan_eq, List.nil_append, List.nil_append]
      exact ih same.newline rfl
    | @gap c rest blank =>
      rw [(Step.gap other _ blank).scan_eq, List.nil_append, List.nil_append]
      exact ih (same.gap c) rfl
    | @token c kind more closed rest solid read =>
      have opened := same.opened c
      rw [(Step.token other _ solid read).scan_eq, List.singleton_append, List.singleton_append,
        List.map_cons, List.map_cons, opened.emit_unplaced,
        ih (opened.emit (fun _ => rfl) rfl closed) rfl]

end ScanState

end CSurvey
