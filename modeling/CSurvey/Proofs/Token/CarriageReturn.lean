import CSurvey.Proofs.Token.LineEnd
import CSurvey.Proofs.Token.Lookahead
import CSurvey.Proofs.Token.Respelled

/-!
# Carriage returns before line feeds

A text can end its lines in a line feed or in a carriage return and a line feed.
The scanner passes the carriage return as a blank, as a part of a comment, or at
the end of a literal that its line cuts off, and so it reads the same tokens either
way, unless a literal goes on to another line.
-/

namespace CSurvey

namespace Token

/-- A token without its text and its bytes: its kind, its lines, the brackets open around it and
its marks. -/
structure Shape where
  kind : TokenKind
  line : Nat
  endLine : Nat
  depth : Nat
  parenDepth : Nat
  directive : Bool
  terminated : Bool
deriving DecidableEq, Repr

def shape (tok : Token) : Shape :=
  ⟨tok.kind, tok.span.line, tok.span.endLine, tok.depth, tok.parenDepth, tok.directive,
    tok.terminated⟩

/-- A literal that begins and ends on one line. -/
def OnOneLine (tok : Token) : Prop :=
  tok.kind.isLiteral = true → tok.span.endLine = tok.span.line

end Token

namespace ScanState

open Text (withReturns)
open Lexeme (Leaves Respelled ReadAgain)
open Token (Shape)

theorem endsInBackslash_withReturns (cs : List Char) :
    endsInBackslash (withReturns cs) = endsInBackslash cs := by
  induction cs using List.reverseRecOn with
  | nil => rfl
  | append_singleton cs c ih =>
    rw [Text.withReturns_append, endsInBackslash_concat]
    by_cases newline : c = '\n'
    · subst newline
      have split : withReturns cs ++ withReturns ['\n'] = (withReturns cs ++ ['\r']) ++ ['\n'] := by
        simp
      rw [split, endsInBackslash_concat, if_neg (by decide), if_neg (by decide)]
    · rw [Text.withReturns_cons newline, Text.withReturns_nil, endsInBackslash_concat, ih]

theorem endsInBackslash_respelled {more other : List Char} (respelled : Respelled more other) :
    endsInBackslash other = endsInBackslash more := by
  rcases respelled with rfl | rfl
  · exact endsInBackslash_withReturns more
  · rw [endsInBackslash_concat, if_pos rfl, endsInBackslash_withReturns]

theorem count_respelled {more other : List Char} (respelled : Respelled more other) :
    other.count '\n' = more.count '\n' := by
  rcases respelled with rfl | rfl
  · exact Text.count_withReturns more
  · rw [List.count_append, Text.count_withReturns]
    rfl

/-- Two states of the scanner that differ only in their offsets. -/
structure Twin (own other : ScanState) : Prop extends SameMode own other where
  line : other.line = own.line

namespace Twin

variable {own other : ScanState}

theorem refl (state : ScanState) : Twin state state :=
  ⟨.refl state, rfl⟩

theorem newline (twin : Twin own other) : Twin own.newline other.newline :=
  ⟨twin.toSameMode.newline, congrArg (· + 1) twin.line⟩

theorem gap (twin : Twin own other) (c : Char) : Twin (own.gap c) (other.gap c) :=
  ⟨twin.toSameMode.gap c, twin.line⟩

/-- A carriage return changes nothing but the offset. -/
theorem gap_return (twin : Twin own other) : Twin own (other.gap '\r') :=
  ⟨⟨twin.depth, twin.parens, twin.lineHasCode, twin.inDirective, twin.backslash⟩, twin.line⟩

theorem opened (twin : Twin own other) (c : Char) : Twin (own.opened c) (other.opened c) :=
  ⟨twin.toSameMode.opened c, by rw [opened_line, opened_line, twin.line]⟩

theorem emit (twin : Twin own other) {kind : TokenKind} {more others : List Char}
    (respelled : Respelled more others) (code : kind = .code → others = more) (closed : Bool) :
    (other.emit kind others closed).1.shape = (own.emit kind more closed).1.shape ∧
      Twin (own.emit kind more closed).2 (other.emit kind others closed).2 := by
  obtain ⟨depth, parens, directive⟩ := twin.toSameMode.emit_token code closed
  have endLine : other.line + others.count '\n' = own.line + more.count '\n' := by
    rw [twin.line, count_respelled respelled]
  constructor
  · rw [Token.shape, Token.shape, depth, parens, directive, Token.Shape.mk.injEq]
    exact ⟨rfl, twin.line, endLine, rfl, rfl, rfl, rfl⟩
  · exact ⟨twin.toSameMode.emit code (endsInBackslash_respelled respelled) closed, endLine⟩

end Twin

/-- With carriage returns a run goes on alike as long as no literal goes on to another line. -/
theorem Run.withReturns_iff {own other last : ScanState} {cs left : List Char}
    {tokens : List Token} (run : Run own cs tokens last []) (twin : Twin own other)
    (leaves : Leaves cs left) :
    (other.scan 0 left).map Token.shape = tokens.map Token.shape ↔
      ∀ tok ∈ tokens, tok.OnOneLine := by
  generalize nothing : ([] : List Char) = rest at run
  induction run generalizing other left with
  | done =>
    subst nothing
    obtain ⟨⟩ := leaves
    simp [scan]
  | @step first second third cs middle rest early late head tail ih =>
    subst nothing
    cases head with
    | newline =>
      rw [List.nil_append]
      cases leaves with
      | whole =>
        rw [Text.withReturns_newline, (Step.gap other _ (by decide)).scan_eq, List.nil_append,
          (Step.newline _ _).scan_eq, List.nil_append]
        exact ih twin.gap_return.newline (.whole _) rfl
      | returned =>
        rw [(Step.newline other _).scan_eq, List.nil_append]
        exact ih twin.newline (.whole _) rfl
    | @gap c rest blank =>
      rw [List.nil_append]
      cases leaves with
      | whole =>
        rw [Text.withReturns_cons (Lexeme.ne_newline_of_isGap blank),
          (Step.gap other _ blank).scan_eq, List.nil_append]
        exact ih (twin.gap c) (.whole _) rfl
      | returned => cases blank
    | @token c kind more closed rest solid read =>
      have notNewline : c ≠ '\n' := by
        rintro rfl
        cases solid
      obtain rfl : left = c :: withReturns (more ++ middle) := by
        generalize eq : c :: (more ++ middle) = whole at leaves
        cases leaves with
        | whole => rw [← eq, Text.withReturns_cons notNewline]
        | returned => exact absurd (List.cons.inj eq).1 notNewline
      rw [List.singleton_append, List.forall_mem_cons]
      by_cases oneLine : kind.isLiteral = true → '\n' ∉ more
      · obtain ⟨others, left, again⟩ := Lexeme.exists_readAgain read oneLine
        obtain ⟨shapes, emitted⟩ := (twin.opened c).emit (again.respelled.cons notNewline)
          (fun code => congrArg (List.cons c) (again.code code)) closed
        rw [again.split, (Step.token other left solid again.read).scan_eq, List.singleton_append,
          List.map_cons, List.map_cons, shapes, List.cons.injEq, eq_self, true_and,
          ih emitted again.leaves rfl, and_iff_right]
        intro literal
        have noFeed := oneLine literal
        simp [ScanState.emit, List.count_eq_zero_of_not_mem noFeed, notNewline]
      · obtain ⟨literal, noFeed⟩ := Classical.not_imp.1 oneLine
        have feeds := List.count_pos_iff.2 (not_not.1 noFeed)
        obtain ⟨others, ends, left, split, again, oneLine⟩ := Lexeme.exists_cut_literal read literal
        rw [split, (Step.token other left solid again).scan_eq, List.singleton_append,
          List.map_cons, List.map_cons]
        -- The token of the text goes on to another line, and that with carriage returns does not.
        refine iff_of_false (fun same => ?_) (fun all => ?_)
        · have lines := congrArg Shape.endLine (List.cons.inj same).1
          simp only [ScanState.emit, Token.shape, (twin.opened c).line,
            List.count_cons_of_ne notNewline, List.count_eq_zero_of_not_mem oneLine] at lines
          omega
        · have lines := all.1 literal
          simp only [ScanState.emit, List.count_cons_of_ne notNewline] at lines
          omega

end ScanState

/-- The same tokens are read, line by line, whether the lines end in a line feed or in a carriage
return and a line feed, exactly if no literal goes on to another line. -/
theorem scan_withReturns_iff (text : String) :
    (scan (String.ofList (Text.withReturns text.toList))).map Token.shape =
        (scan text).map Token.shape ↔
      ∀ tok ∈ scan text, tok.OnOneLine := by
  obtain ⟨last, run⟩ := exists_run_scan text
  rw [scan, String.toList_ofList]
  exact run.withReturns_iff (.refl .initial) (.whole _)

/-- A backslash carries a string on to the next line, but not past a carriage return. -/
theorem scan_withReturns_cuts_string :
    (scan (String.ofList (Text.withReturns "\"a\\\nb\"\n".toList))).map Token.shape ≠
      (scan "\"a\\\nb\"\n").map Token.shape := by
  decide +kernel

end CSurvey
