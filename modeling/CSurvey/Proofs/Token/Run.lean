import CSurvey.Proofs.Text.Cut
import CSurvey.Token.Scan

/-!
# Runs of the scanner

The scanner reads a text in steps: past one blank, or past one token.  This file
states the steps as a relation between scanner states and the characters still
to be read, and proves that the tokens of a scan are those of its run.  Facts
about all tokens then follow from one case for each kind of step.
-/

namespace CSurvey

namespace Lexeme

/-- A character that separates tokens. -/
def isSeparator (c : Char) : Bool :=
  c == '\n' || isGap c

theorem prefix_blockRest (cs : List Char) : (blockRest cs).1 <+: cs := by
  fun_induction blockRest cs with
  | case1 => exact List.prefix_rfl
  | case2 rest => exact List.prefix_append ['*', '/'] rest
  | case3 c rest _ more closed read ih =>
    rw [read] at ih
    exact (List.prefix_cons_inj c).2 ih

theorem prefix_literalRest (quote : Char) (cs : List Char) :
    (literalRest quote cs).1 <+: cs := by
  fun_induction literalRest quote cs with
  | case1 => exact List.prefix_rfl
  | case2 => exact List.prefix_rfl
  | case3 c rest more closed read ih =>
    rw [read] at ih
    exact (List.prefix_cons_inj _).2 ((List.prefix_cons_inj c).2 ih)
  | case4 rest => exact List.prefix_append [quote] rest
  | case5 rest => exact List.nil_prefix
  | case6 c rest _ _ _ _ more closed read ih =>
    rw [read] at ih
    exact (List.prefix_cons_inj c).2 ih

/-- What a token adds to its first character is taken from the front of the text. -/
theorem prefix_after (c : Char) (rest : List Char) : (after c rest).2.1 <+: rest := by
  unfold after
  split
  · exact List.takeWhile_prefix _
  split
  · rename_i opens
    have star : rest = '*' :: rest.tail := by
      cases rest with
      | nil => simp at opens
      | cons d rest => simp_all
    have inside := (List.prefix_cons_inj '*').2 (prefix_blockRest rest.tail)
    rwa [← star] at inside
  split
  · exact prefix_literalRest '"' rest
  split
  · exact prefix_literalRest '\'' rest
  split
  · exact List.takeWhile_prefix _
  split
  · rename_i dots
    have two : rest.take 2 = ['.', '.'] := by simp_all
    exact two ▸ List.take_prefix 2 rest
  split
  · exact List.take_prefix 1 rest
  · exact List.nil_prefix

/-- A hash is a token of its own wherever it stands. -/
theorem after_hash (rest : List Char) : after '#' rest = (.code, [], true) := by
  have noPair : rest.head?.any (fun d => pairs.contains ('#', d)) = false := by
    cases rest with
    | nil => rfl
    | cons d rest => simp [pairs]
  simp only [after, noPair]
  simp [isWordChar]

end Lexeme

namespace ScanState

/-- The state in which the token that begins with `c` is read: a `#` at the front of a line
opens a directive. -/
def opened (state : ScanState) (c : Char) : ScanState :=
  if c = '#' && !state.lineHasCode then { state with inDirective := true } else state

theorem token_eq_emit (state : ScanState) (c : Char) (rest : List Char) :
    state.token c rest = (state.opened c).emit (Lexeme.after c rest).1
      (c :: (Lexeme.after c rest).2.1) (Lexeme.after c rest).2.2 := by
  unfold token opened
  by_cases hash : (c = '#' && !state.lineHasCode) = true
  · have isHash : c = '#' := by simp_all
    rw [if_pos hash, if_pos hash, isHash, Lexeme.after_hash]
  · rw [if_neg hash, if_neg hash]

/-- One step of the scanner, with the tokens it yields and the characters it leaves. -/
inductive Step : ScanState → List Char → List Token → ScanState → List Char → Prop
  | newline (state : ScanState) (rest : List Char) :
      Step state ('\n' :: rest) [] state.newline rest
  | gap (state : ScanState) {c : Char} (rest : List Char) (blank : Lexeme.isGap c = true) :
      Step state (c :: rest) [] (state.gap c) rest
  | token (state : ScanState) {c : Char} {kind : TokenKind} {more : List Char} {closed : Bool}
      (rest : List Char) (solid : Lexeme.isSeparator c = false)
      (read : Lexeme.after c (more ++ rest) = (kind, more, closed)) :
      Step state (c :: (more ++ rest)) [((state.opened c).emit kind (c :: more) closed).1]
        ((state.opened c).emit kind (c :: more) closed).2 rest

/-- Any number of steps. -/
inductive Run : ScanState → List Char → List Token → ScanState → List Char → Prop
  | done (state : ScanState) (cs : List Char) : Run state cs [] state cs
  | step {first second third : ScanState} {cs middle rest : List Char} {front back : List Token}
      (head : Step first cs front second middle) (tail : Run second middle back third rest) :
      Run first cs (front ++ back) third rest

@[simp]
theorem emit_text (state : ScanState) (kind : TokenKind) (cs : List Char) (closed : Bool) :
    (state.emit kind cs closed).1.text = String.ofList cs :=
  rfl

/-- The characters that belong to the last token are passed over. -/
theorem scan_skip (state : ScanState) (passed rest : List Char) :
    state.scan passed.length (passed ++ rest) = state.scan 0 rest := by
  induction passed with
  | nil => rfl
  | cons c passed ih => simpa only [List.length_cons, List.cons_append, scan] using ih

theorem Step.scan_eq {first second : ScanState} {cs rest : List Char} {front : List Token}
    (step : Step first cs front second rest) :
    first.scan 0 cs = front ++ second.scan 0 rest := by
  cases step with
  | newline => simp [scan]
  | gap rest blank =>
    rename_i c
    have notNewline : c ≠ '\n' := by
      rintro rfl
      simp [Lexeme.isGap] at blank
    simp [scan, notNewline, blank]
  | token rest solid read =>
    rename_i c kind more closed
    have notNewline : c ≠ '\n' := by
      rintro rfl
      simp [Lexeme.isSeparator] at solid
    have notGap : Lexeme.isGap c = false := by
      simp only [Lexeme.isSeparator, Bool.or_eq_false_iff] at solid
      exact solid.2
    simp only [scan, notNewline, notGap, if_false, Bool.false_eq_true, token_eq_emit, read,
      emit_text, String.length_ofList, List.length_cons, Nat.add_sub_cancel, scan_skip,
      List.cons_append, List.nil_append]

theorem Run.scan_eq {first last : ScanState} {cs rest : List Char} {tokens : List Token}
    (run : Run first cs tokens last rest) :
    first.scan 0 cs = tokens ++ last.scan 0 rest := by
  induction run with
  | done => rfl
  | step head tail ih => rw [head.scan_eq, ih, List.append_assoc]

/-- A step is possible as long as characters are left, and it reads at least one of them. -/
theorem exists_step (state : ScanState) (c : Char) (rest : List Char) :
    ∃ front next left, Step state (c :: rest) front next left ∧ left.length ≤ rest.length := by
  by_cases newline : c = '\n'
  · subst newline
    exact ⟨[], state.newline, rest, .newline state rest, Nat.le_refl _⟩
  by_cases blank : Lexeme.isGap c = true
  · exact ⟨[], state.gap c, rest, .gap state rest blank, Nat.le_refl _⟩
  have solid : Lexeme.isSeparator c = false := by simp [Lexeme.isSeparator, newline, blank]
  obtain ⟨left, eq⟩ := Lexeme.prefix_after c rest
  have read : Lexeme.after c ((Lexeme.after c rest).2.1 ++ left) =
      ((Lexeme.after c rest).1, (Lexeme.after c rest).2.1, (Lexeme.after c rest).2.2) := by
    rw [eq]
  have step := Step.token state left solid read
  rw [eq] at step
  refine ⟨_, _, left, step, ?_⟩
  rw [← eq, List.length_append]
  omega

/-- Every text is read to its end. -/
theorem exists_run (state : ScanState) (cs : List Char) :
    ∃ last, Run state cs (state.scan 0 cs) last [] := by
  suffices total : ∃ tokens last, Run state cs tokens last [] by
    obtain ⟨tokens, last, run⟩ := total
    have eq := run.scan_eq
    simp only [scan, List.append_nil] at eq
    exact ⟨last, eq ▸ run⟩
  match cs with
  | [] => exact ⟨[], state, .done state []⟩
  | c :: rest =>
    obtain ⟨front, next, left, step, shorter⟩ := exists_step state c rest
    have : left.length < (c :: rest).length := by
      rw [List.length_cons]
      omega
    obtain ⟨last, run⟩ := exists_run next left
    exact ⟨_, last, .step step run⟩
termination_by cs.length

theorem Run.append {first second third : ScanState} {cs middle rest : List Char}
    {front back : List Token} (head : Run first cs front second middle)
    (tail : Run second middle back third rest) : Run first cs (front ++ back) third rest := by
  induction head with
  | done => exact tail
  | step one _ ih =>
    rw [List.append_assoc]
    exact .step one (ih tail)

end ScanState

theorem exists_run_scan (text : String) :
    ∃ last, ScanState.Run .initial text.toList (scan text) last [] :=
  ScanState.exists_run .initial text.toList

/-!
## The insides of literals

The scanner gives a literal its opening quote, and a closing one if it is closed.  What
stands between is the inside.
-/

def TokenKind.quote : TokenKind → Char
  | char => '\''
  | _ => '"'

theorem TokenKind.isWide_quote (kind : TokenKind) : Text.isWide kind.quote = false := by
  cases kind <;> rfl

def Token.closing (tok : Token) : List Char :=
  if tok.terminated then [tok.kind.quote] else []

/-- A literal is its inside between quotes of its kind. -/
def Token.HasInside (tok : Token) : Prop :=
  tok.kind.isLiteral = true →
    tok.text.toList = tok.kind.quote :: (tok.body.toList ++ tok.closing)

namespace Lexeme

theorem literalRest_of_closed (quote : Char) (cs : List Char)
    (closed : (literalRest quote cs).2 = true) :
    ∃ body, (literalRest quote cs).1 = body ++ [quote] := by
  fun_induction literalRest quote cs with
  | case1 => cases closed
  | case2 => cases closed
  | case3 c rest more ends read ih =>
    rw [read] at ih
    obtain ⟨body, eq⟩ := ih closed
    exact ⟨'\\' :: c :: body, by simp_all⟩
  | case4 rest => exact ⟨[], rfl⟩
  | case5 rest => cases closed
  | case6 c rest _ _ _ _ more ends read ih =>
    rw [read] at ih
    obtain ⟨body, eq⟩ := ih closed
    exact ⟨c :: body, by simp_all⟩

theorem quotes_after (c : Char) (rest : List Char)
    (literal : (after c rest).1.isLiteral = true) :
    c = (after c rest).1.quote ∧ ((after c rest).2.2 = true →
      ∃ body, (after c rest).2.1 = body ++ [(after c rest).1.quote]) := by
  unfold after at literal ⊢
  split
  · simp_all [TokenKind.isLiteral]
  split
  · simp_all [TokenKind.isLiteral]
  split
  · rename_i quote
    exact ⟨quote, literalRest_of_closed '"' rest⟩
  split
  · rename_i quote
    exact ⟨quote, literalRest_of_closed '\'' rest⟩
  · -- what is left is code
    rename_i notLine notBlock notString notChar
    rw [if_neg notLine, if_neg notBlock, if_neg notString, if_neg notChar] at literal
    split at literal
    · cases literal
    split at literal
    · cases literal
    split at literal <;> cases literal

end Lexeme

theorem ScanState.Run.hasInside {first last : ScanState} {cs rest : List Char}
    {tokens : List Token} (run : Run first cs tokens last rest) : ∀ tok ∈ tokens, tok.HasInside := by
  induction run with
  | done => simp
  | @step first second third cs middle rest front back head tail ih =>
    cases head with
    | newline => exact ih
    | gap => exact ih
    | @token c kind more closed left solid read =>
      refine List.forall_mem_cons.2 ⟨fun literal => ?_, ih⟩
      have parts := Lexeme.quotes_after c (more ++ middle)
      rw [read] at parts
      obtain ⟨opens, ends⟩ := parts literal
      have isLiteral : kind.isLiteral = true := literal
      cases closed with
      | false => simp [emit, Token.body, Token.closing, isLiteral, opens]
      | true =>
        obtain ⟨body, eq⟩ := ends rfl
        simp only at eq
        simp [emit, Token.body, Token.closing, isLiteral, opens, eq]

theorem hasInside_of_mem_scan {text : String} : ∀ tok ∈ scan text, tok.HasInside := by
  obtain ⟨last, run⟩ := exists_run_scan text
  exact run.hasInside

end CSurvey
