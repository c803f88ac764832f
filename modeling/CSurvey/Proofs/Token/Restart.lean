import CSurvey.Proofs.Token.Lookahead
import CSurvey.Proofs.Token.Moved

/-!
# Scanning a part of a text

A text cut out at the beginning of a token, outside braces and directives, is
scanned into the tokens that it has in the whole text: the scanner forgets what
else stood on the line as soon as it has read that token, and at the other end a
cut right after a closing brace changes no token before it.
-/

namespace CSurvey

namespace ScanState

/-- Two states of the scanner that differ only in where they stand, and in open parentheses. -/
structure Shifted (shift : Shift) (own other : ScanState) : Prop where
  offset : other.offset = own.offset + shift.bytes
  line : other.line = own.line + shift.lines
  depth : other.depth = own.depth
  lineHasCode : other.lineHasCode = own.lineHasCode
  inDirective : other.inDirective = own.inDirective
  backslash : other.backslash = own.backslash

namespace Shifted

variable {shift : Shift} {own other : ScanState}

theorem newline (shifted : Shifted shift own other) :
    Shifted shift own.newline other.newline where
  offset := by
    simp only [ScanState.newline, shifted.offset]
    omega
  line := by
    simp only [ScanState.newline, shifted.line]
    omega
  depth := shifted.depth
  lineHasCode := rfl
  inDirective := by simp only [ScanState.newline, shifted.inDirective, shifted.backslash]
  backslash := rfl

theorem gap (shifted : Shifted shift own other) (c : Char) :
    Shifted shift (own.gap c) (other.gap c) where
  offset := by
    simp only [ScanState.gap, shifted.offset]
    omega
  line := shifted.line
  depth := shifted.depth
  lineHasCode := shifted.lineHasCode
  inDirective := shifted.inDirective
  backslash := by simp only [ScanState.gap, shifted.backslash]

theorem opened (shifted : Shifted shift own other) (c : Char) :
    Shifted shift (own.opened c) (other.opened c) := by
  unfold ScanState.opened
  rw [shifted.lineHasCode]
  split
  · exact ⟨shifted.offset, shifted.line, shifted.depth, rfl, rfl, shifted.backslash⟩
  · exact shifted

end Shifted

/-- A token is the same wherever it stands, if as many braces and directives are open. -/
theorem moved_emit (shift : Shift) {own other : ScanState}
    (offset : other.offset = own.offset + shift.bytes)
    (line : other.line = own.line + shift.lines) (depth : other.depth = own.depth)
    (inDirective : other.inDirective = own.inDirective) (kind : TokenKind) (cs : List Char)
    (closed : Bool) :
    (own.emit kind cs closed).1.moved shift = (other.emit kind cs closed).1.moved .zero := by
  simp only [emit, Token.moved, Span.moved, offset, line, depth, inDirective, Shift.zero,
    Nat.add_zero, Nat.add_right_comm _ shift.bytes, Nat.add_right_comm _ shift.lines]

/-- A token of code or a literal leaves nothing to tell what stood before it on its line. -/
theorem shifted_emit (shift : Shift) {own other : ScanState}
    (offset : other.offset = own.offset + shift.bytes)
    (line : other.line = own.line + shift.lines) (depth : other.depth = own.depth)
    (inDirective : other.inDirective = own.inDirective) {kind : TokenKind}
    (same : kind.isComment = false ∨ other.lineHasCode = own.lineHasCode) (cs : List Char)
    (closed : Bool) :
    Shifted shift (own.emit kind cs closed).2 (other.emit kind cs closed).2 where
  offset := by
    simp only [emit, offset]
    omega
  line := by
    simp only [emit, line]
    omega
  depth := by simp only [emit, depth, inDirective]
  lineHasCode := by
    rcases same with other | same
    · simp [emit, other]
    · simp [emit, same]
  inDirective := by simp only [emit, inDirective]
  backslash := rfl

/-- The scanner reads the same tokens wherever it stands. -/
theorem Run.restart {shift : Shift} {own first last : ScanState} {cs rest : List Char}
    {tokens : List Token} (run : Run first cs tokens last rest)
    (shifted : Shifted shift own first) :
    ∃ others final, Run own cs others final rest ∧
      others.map (Token.moved shift) = tokens.map (Token.moved .zero) := by
  induction run generalizing own with
  | done => exact ⟨[], own, .done _ _, rfl⟩
  | step head tail ih =>
    cases head with
    | newline =>
      obtain ⟨others, final, again, same⟩ := ih shifted.newline
      exact ⟨others, final, .step (.newline ..) again, same⟩
    | @gap c rest blank =>
      obtain ⟨others, final, again, same⟩ := ih (shifted.gap c)
      exact ⟨others, final, .step (.gap _ _ blank) again, same⟩
    | @token c kind more closed rest solid read =>
      have opened := shifted.opened c
      obtain ⟨others, final, again, same⟩ := ih (shifted_emit shift opened.offset opened.line
        opened.depth opened.inDirective (Or.inr opened.lineHasCode) (c :: more) closed)
      refine ⟨_, final, .step (.token _ _ solid read) again, ?_⟩
      simp [same, moved_emit shift opened.offset opened.line opened.depth opened.inDirective]

theorem opened_of_ne {c : Char} (other : c ≠ '#') (state : ScanState) :
    state.opened c = state := by
  simp [opened, other]

/-- A text that begins with a token is scanned like the same characters in another text, if there
no braces and no directive are open. -/
theorem scan_restart {state last : ScanState} {c : Char} {kind : TokenKind}
    {more left : List Char} {closed : Bool} {tokens : List Token}
    (solid : Lexeme.isSeparator c = false)
    (read : Lexeme.after c (more ++ left) = (kind, more, closed)) (notHash : c ≠ '#')
    (notComment : kind.isComment = false) (positive : 1 ≤ state.line)
    (outside : state.depth = 0) (plain : state.inDirective = false)
    (tail : Run (state.emit kind (c :: more) closed).2 left tokens last []) :
    (CSurvey.scan (String.ofList (c :: (more ++ left)))).map
        (Token.moved ⟨state.offset, state.line - 1⟩) =
      ((state.emit kind (c :: more) closed).1 :: tokens).map (Token.moved .zero) := by
  have offset : state.offset = initial.offset + state.offset := (Nat.zero_add _).symm
  have line : state.line = initial.line + (state.line - 1) := by
    simp only [initial]
    omega
  have shifted := shifted_emit ⟨state.offset, state.line - 1⟩ offset line outside plain
    (Or.inl notComment) (c :: more) closed
  obtain ⟨others, final, again, same⟩ := tail.restart shifted
  have begins := Step.token initial left solid read
  rw [opened_of_ne notHash] at begins
  have whole := (Run.step begins again).scan_eq
  rw [CSurvey.scan, String.toList_ofList, whole]
  simp [scan, same, moved_emit ⟨state.offset, state.line - 1⟩ offset line outside plain]

end ScanState

end CSurvey
