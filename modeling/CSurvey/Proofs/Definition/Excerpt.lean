import CSurvey.Proofs.Definition.Sites
import CSurvey.Proofs.Token.Restart

/-!
# Definitions cut out of their text

A definition begins with a name or a star outside braces and ends with a brace or
with the text.  Cut out at these two places it is scanned into its own tokens.
-/

namespace CSurvey

/-- The characters `own` stand in a text after `before`, and on their own they have the tokens that
they have in the text. -/
structure Excerpt (text : String) (before own : List Char) (tokens : List Token) : Prop where
  isPrefix : before ++ own <+: text.toList
  scan_own : (scan (String.ofList own)).map
    (Token.moved ⟨Text.byteLength before, before.count '\n'⟩) = tokens.map (Token.moved .zero)

/-- A token with which a part of a text that is scanned on its own can begin: a name or a star
outside braces and directives. -/
structure Token.Fresh (tok : Token) : Prop where
  word : isTypeWord tok = true
  outside : tok.depth = 0
  plain : tok.directive = false

namespace ScanState

theorem after_closeBrace (rest : List Char) : Lexeme.after '}' rest = (.code, [], true) := by
  have noPair : rest.head?.any (fun d => Lexeme.pairs.contains ('}', d)) = false := by
    cases rest with
    | nil => rfl
    | cons d rest => simp [Lexeme.pairs]
  simp only [Lexeme.after, noPair]
  simp [Lexeme.isWordChar]

theorem ne_hash_of_isTypeWord {state : ScanState} {kind : TokenKind} {c : Char}
    {more : List Char} {closed : Bool}
    (word : isTypeWord (state.emit kind (c :: more) closed).1 = true) : c ≠ '#' := by
  rintro rfl
  rw [isTypeWord, Bool.or_eq_true, isPunct_emit] at word
  simp [Token.isIdent, isIdentifier, isIdentStart] at word

/-- The state in which a token is read that can begin a text of its own. -/
theorem state_of_fresh {state : ScanState} {kind : TokenKind} {c : Char} {more : List Char}
    {closed : Bool} (fresh : ((state.opened c).emit kind (c :: more) closed).1.Fresh) :
    c ≠ '#' ∧ kind.isComment = false ∧ state.depth = 0 ∧ state.inDirective = false := by
  have notHash := ne_hash_of_isTypeWord fresh.word
  rw [opened_of_ne notHash] at fresh
  have parameter := Definition.isParameter_of_isTypeWord fresh.word
  have flat := Token.isClosing_of_not_isBrace (Definition.isBrace_of_isParameter parameter)
  have nested := (emit_nested state kind (c :: more) closed).1
  rw [flat, if_neg Bool.false_ne_true, fresh.outside] at nested
  refine ⟨notHash, ?_, nested.symm, fresh.plain⟩
  have code : kind = .code := by
    have word := fresh.word
    rw [isTypeWord, Bool.or_eq_true, isPunct_emit] at word
    cases kind <;> simp [Token.isIdent, Token.isCode, emit] at word ⊢
  rw [code]
  rfl

end ScanState

section Excerpts

variable {text : String} {front mid back : List Token} {first last : Token}

/-- A text is scanned in the same way from a name or a star outside braces on. -/
theorem exists_excerpt_to_end (whole : scan text = front ++ first :: mid) (fresh : first.Fresh) :
    ∃ before own, Excerpt text before own (first :: mid) ∧ text.toList = before ++ own ∧
      first.span.start = Text.byteLength before ∧ first.span.line = 1 + before.count '\n' := by
  obtain ⟨final, run⟩ := exists_run_scan text
  rw [whole] at run
  obtain ⟨state, c, kind, more, closed, left, start, solid, read, rfl, tail⟩ := run.split
  obtain ⟨notHash, notComment, outside, plain⟩ := ScanState.state_of_fresh fresh
  rw [ScanState.opened_of_ne notHash] at tail ⊢
  obtain ⟨before, eq, here⟩ := start.passes .initial
  rw [List.nil_append] at here
  have again := ScanState.scan_restart solid read notHash notComment (by rw [here.line]; omega)
    outside plain tail
  refine ⟨before, c :: (more ++ left), ⟨eq ▸ List.prefix_rfl, ?_⟩, eq, here.offset, here.line⟩
  rwa [here.offset, here.line, Nat.add_sub_cancel_left] at again

/-- A text is scanned in the same way from a name or a star outside braces up to a closing
brace. -/
theorem exists_excerpt_to_brace (whole : scan text = front ++ first :: (mid ++ last :: back))
    (fresh : first.Fresh) (closes : last.isPunct Token.closeBrace = true) :
    ∃ before own, Excerpt text before own (first :: (mid ++ [last])) ∧
      last.span.stop = Text.byteLength (before ++ own) ∧
      first.span.start = Text.byteLength before ∧ first.span.line = 1 + before.count '\n' := by
  obtain ⟨final, run⟩ := exists_run_scan text
  rw [whole] at run
  obtain ⟨state, c, kind, more, closed, left, start, solid, read, rfl, tail⟩ := run.split
  obtain ⟨notHash, notComment, outside, plain⟩ := ScanState.state_of_fresh fresh
  rw [ScanState.opened_of_ne notHash] at tail ⊢
  obtain ⟨before, eq, here⟩ := start.passes .initial
  rw [List.nil_append] at here
  obtain ⟨state', c', kind', more', closed', left', between, solid', read', rfl, -⟩ := tail.split
  obtain ⟨rfl, rfl⟩ : c' = '}' ∧ more' = [] := by
    rw [ScanState.isPunct_emit, Bool.and_eq_true, beq_iff_eq, beq_iff_eq] at closes
    exact List.cons.inj closes.2
  rw [ScanState.after_closeBrace] at read'
  obtain ⟨rfl, -, rfl⟩ := by simpa only [Prod.mk.injEq] using read'
  obtain ⟨inner, rfl, reads⟩ := between.cut (show ('}' : Char) ≠ '.' by decide)
  have brace := ScanState.Step.token state' [] solid'
    (show Lexeme.after '}' ([] ++ []) = _ from ScanState.after_closeBrace [])
  have cut := (reads []).append (.step brace (.done _ _))
  have begins := Lexeme.after_congr read (Lexeme.alike_append inner (by decide) left' [])
  have again := ScanState.scan_restart solid begins notHash notComment
    (by rw [here.line]; omega) outside plain cut
  obtain ⟨passed, same, there⟩ := between.passes (here.emit kind (c :: more) closed)
  obtain rfl := List.append_cancel_right same
  refine ⟨before, c :: (more ++ (inner ++ ['}'])), ⟨⟨left', by simp [eq]⟩, ?_⟩, ?_, here.offset,
    here.line⟩
  · rwa [here.offset, here.line, Nat.add_sub_cancel_left] at again
  · simp [ScanState.emit, there.offset, Nat.add_assoc]

end Excerpts

theorem Site.Formed.exists_excerpt {text : String} {site : Site} (formed : site.Formed)
    {front back : List Token} (whole : significant (scan text) = front ++ (site.tokens ++ back))
    (atEnd : site.definition.closeBrace = none → back = []) :
    ∃ before own tokens, Excerpt text before own tokens ∧ significant tokens = site.tokens ∧
      site.first.span.start = Text.byteLength before ∧
      site.first.span.line = 1 + before.count '\n' ∧
      (site.record text.toList 0).span.stop = Text.byteLength (before ++ own) := by
  obtain ⟨_, nested⟩ := nested_scan text
  have depths := (formed.depth_eq_zero (whole ▸ nested.significant)).1
  obtain ⟨others, header⟩ := site.headerTokens_eq
  have parts : site.tokens =
      site.first :: (others ++ site.definition.openBrace :: site.definition.bodyTokens) := by
    rw [Site.tokens_eq, header, List.cons_append]
  have plain : site.first.directive = false :=
    directive_of_mem_significant (by rw [whole, parts]; simp)
  have fresh : site.first.Fresh :=
    ⟨formed.isTypeWord_first, depths _ (by rw [header]; simp), plain⟩
  rw [parts, List.cons_append] at whole
  obtain ⟨before, after, text_eq, -, keeps, inAfter⟩ := exists_of_significant_eq whole
  cases brace : site.definition.closeBrace with
  | none =>
    obtain ⟨passed, own, excerpt, eq, start, line⟩ := exists_excerpt_to_end text_eq fresh
    refine ⟨passed, own, _, excerpt, ?_, start, line, ?_⟩
    · rw [significant, List.filter_cons_of_pos keeps, parts]
      rw [atEnd brace, List.append_nil] at inAfter
      exact congrArg _ inAfter
    · simp [Site.record, Definition.record, brace, eq]
  | some close =>
    have body : site.definition.bodyTokens = site.definition.inner ++ [close] := by
      simp [Definition.bodyTokens, brace]
    rw [body, ← List.cons_append, ← List.append_assoc, List.append_assoc,
      List.singleton_append] at inAfter
    obtain ⟨mid, rest, rfl, inMid, keepsLast, -⟩ := exists_of_significant_eq inAfter
    have closes : close.isPunct Token.closeBrace = true := by
      have closes := formed.definition.closeBrace close brace
      rw [Definition.closes, Bool.and_eq_true] at closes
      exact closes.1
    obtain ⟨passed, own, excerpt, stop, start, line⟩ :=
      exists_excerpt_to_brace text_eq fresh closes
    refine ⟨passed, own, _, excerpt, ?_, start, line, ?_⟩
    · have last : significant [close] = [close] := List.filter_cons_of_pos keepsLast
      rw [significant, List.filter_cons_of_pos keeps, parts, body]
      change _ :: significant (mid ++ [close]) = _
      rw [significant_append, inMid, last, List.append_assoc, List.cons_append]
    · simp [Site.record, Definition.record, brace, ← stop]

end CSurvey
