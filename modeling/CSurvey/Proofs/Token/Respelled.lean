import CSurvey.Proofs.Text.Returns
import CSurvey.Proofs.Token.Lookahead

/-!
# Tokens spelled with carriage returns

A token of a text is read again when carriage returns are put before its line feeds.
A comment takes them in, and a literal that its line cuts off takes the one at the end
of the line.  The exception is a literal that a backslash carries on to the next line:
there the backslash takes the carriage return, and the line feed ends the literal.
-/

namespace CSurvey

namespace Lexeme

open Text (withReturns)

/-- What is left of the text with carriage returns where the other text has `rest` left: the
carriage return before the next line feed may have been read already. -/
inductive Leaves : List Char → List Char → Prop
  | whole (rest : List Char) : Leaves rest (withReturns rest)
  | returned (rest : List Char) : Leaves ('\n' :: rest) ('\n' :: withReturns rest)

/-- The two ways in which the same token is spelled: with carriage returns in it, and maybe one
more at its end. -/
def Respelled (more other : List Char) : Prop :=
  other = withReturns more ∨ other = withReturns more ++ ['\r']

theorem Respelled.cons {c : Char} (notNewline : c ≠ '\n') {more other : List Char}
    (respelled : Respelled more other) : Respelled (c :: more) (c :: other) := by
  unfold Respelled at respelled ⊢
  rw [Text.withReturns_cons notNewline]
  exact respelled.imp (congrArg (List.cons c)) (congrArg (List.cons c))

theorem takeWhile_withReturns {test : Char → Bool} (feed : test '\n' = false)
    (noReturn : test '\r' = false) (cs : List Char) :
    (withReturns cs).takeWhile test = cs.takeWhile test := by
  induction cs with
  | nil => rfl
  | cons c cs ih =>
    by_cases newline : c = '\n'
    · subst newline
      simp [feed, noReturn]
    · rw [Text.withReturns_cons newline, List.takeWhile_cons, List.takeWhile_cons, ih]

theorem blockRest_withReturns (cs : List Char) :
    blockRest (withReturns cs) = (withReturns (blockRest cs).1, (blockRest cs).2) := by
  fun_induction blockRest cs with
  | case1 => rfl
  | case2 rest => rfl
  | case3 c rest notEnd more closed read ih =>
    rw [read] at ih
    by_cases newline : c = '\n'
    · subst newline
      rw [Text.withReturns_newline, Text.withReturns_newline, blockRest_cons (by simp),
        blockRest_cons (by simp), ih]
    · have other : ¬ (c = '*' ∧ (withReturns rest).head? = some '/') := by
        rintro ⟨rfl, slash⟩
        have slash := (Text.head?_withReturns_iff (by decide) (by decide)).1 slash
        obtain ⟨tail, rfl⟩ := List.head?_eq_some_iff.1 slash
        exact notEnd tail rfl rfl
      rw [Text.withReturns_cons newline, blockRest_cons other, ih, Text.withReturns_cons newline]

/-- A literal on one line is read alike; if the line cuts it off, it takes the carriage return. -/
theorem literalRest_withReturns {quote : Char} (notFeed : quote ≠ '\n') (notReturn : quote ≠ '\r')
    {more rest : List Char} {closed : Bool}
    (read : literalRest quote (more ++ rest) = (more, closed)) (oneLine : '\n' ∉ more) :
    ∃ other left, withReturns (more ++ rest) = other ++ left ∧ Leaves rest left ∧
      Respelled more other ∧ literalRest quote (other ++ left) = (other, closed) := by
  generalize eq : more ++ rest = text at read
  fun_induction literalRest quote text generalizing more closed with
  | case1 =>
    obtain ⟨rfl, rfl⟩ := List.append_eq_nil_iff.1 eq
    obtain rfl : false = closed := congrArg Prod.snd read
    exact ⟨[], [], rfl, .whole [], Or.inl rfl, rfl⟩
  | case2 =>
    obtain ⟨rfl, rfl⟩ : ['\\'] = more ∧ false = closed := by simpa using read
    obtain rfl := List.append_right_eq_self.1 eq
    exact ⟨['\\'], [], rfl, .whole [], Or.inl rfl, rfl⟩
  | case3 c tail inner innerClosed step ih =>
    obtain ⟨rfl, rfl⟩ : '\\' :: c :: inner = more ∧ innerClosed = closed := by simpa using read
    simp only [List.cons_append, List.cons.injEq, true_and] at eq
    simp only [List.mem_cons, not_or] at oneLine
    obtain ⟨other, left, split, leaves, respelled, again⟩ := ih oneLine.2.2 eq step
    have notNewline : c ≠ '\n' := Ne.symm oneLine.2.1
    refine ⟨'\\' :: c :: other, left, ?_, leaves,
      (respelled.cons notNewline).cons (by decide), ?_⟩
    · rw [Text.withReturns_cons (by decide), Text.withReturns_cons notNewline, split]
      rfl
    · rw [List.cons_append, List.cons_append, literalRest, again]
  | case4 tail notLast notEscape =>
    obtain ⟨rfl, rfl⟩ : [quote] = more ∧ true = closed := by simpa using read
    obtain rfl : rest = tail := by simpa using eq
    refine ⟨[quote], withReturns rest, Text.withReturns_cons notFeed rest, .whole rest,
      Or.inl (Text.withReturns_cons notFeed []).symm, ?_⟩
    rw [List.singleton_append, literalRest_cons (ne_backslash notLast notEscape), if_pos rfl]
  | case5 tail notLast notEscape notQuote =>
    obtain ⟨rfl, rfl⟩ : [] = more ∧ false = closed := by simpa using read
    obtain rfl : rest = '\n' :: tail := eq
    refine ⟨['\r'], '\n' :: withReturns tail, rfl, .returned tail, Or.inr rfl, ?_⟩
    rw [List.singleton_append, literalRest_cons (by decide), if_neg (Ne.symm notReturn),
      if_neg (by decide), literalRest_cons (by decide), if_neg notQuote, if_pos rfl]
  | case6 c tail notLast notEscape notQuote notNewline inner innerClosed step ih =>
    obtain ⟨rfl, rfl⟩ : c :: inner = more ∧ innerClosed = closed := by simpa using read
    rw [List.cons_append, List.cons.injEq] at eq
    rw [List.mem_cons, not_or] at oneLine
    obtain ⟨other, left, split, leaves, respelled, again⟩ := ih oneLine.2 eq.2 step
    refine ⟨c :: other, left, ?_, leaves, respelled.cons notNewline, ?_⟩
    · rw [Text.withReturns_cons notNewline, split]
      rfl
    · rw [List.cons_append, literalRest_cons (ne_backslash notLast notEscape), if_neg notQuote,
        if_neg notNewline, again]

/-- With carriage returns, a literal never goes on to another line. -/
theorem not_mem_literalRest_withReturns {quote : Char} (notFeed : quote ≠ '\n')
    (notReturn : quote ≠ '\r') (cs : List Char) :
    '\n' ∉ (literalRest quote (withReturns cs)).1 := by
  fun_induction literalRest quote cs with
  | case1 => simp [literalRest]
  | case2 => simp [Text.withReturns_cons (by decide : '\\' ≠ '\n'), literalRest]
  | case3 c rest more closed read ih =>
    rw [Text.withReturns_cons (by decide)]
    by_cases newline : c = '\n'
    · subst newline
      rw [Text.withReturns_newline, literalRest, literalRest_cons (by decide),
        if_neg (Ne.symm notFeed), if_pos rfl]
      simp
    · rw [Text.withReturns_cons newline, literalRest]
      simp [Ne.symm newline, ih]
  | case4 rest notLast notEscape =>
    rw [Text.withReturns_cons notFeed, literalRest_cons (ne_backslash notLast notEscape),
      if_pos rfl]
    simp [Ne.symm notFeed]
  | case5 rest notLast notEscape notQuote =>
    rw [Text.withReturns_newline, literalRest_cons (by decide), if_neg (Ne.symm notReturn),
      if_neg (by decide), literalRest_cons (by decide), if_neg notQuote, if_pos rfl]
    simp
  | case6 c rest notLast notEscape notQuote notNewline more closed read ih =>
    rw [Text.withReturns_cons notNewline, literalRest_cons (ne_backslash notLast notEscape),
      if_neg notQuote, if_neg notNewline]
    simp [Ne.symm notNewline, ih]

theorem lineRest_withReturns {more rest : List Char}
    (read : (more ++ rest).takeWhile (fun c => decide (c ≠ '\n')) = more) :
    ∃ other left, withReturns (more ++ rest) = other ++ left ∧ Leaves rest left ∧
      Respelled more other ∧
      (other ++ left).takeWhile (fun c => decide (c ≠ '\n')) = other := by
  have noFeed : '\n' ∉ more := by
    intro member
    rw [← read] at member
    simpa using List.mem_takeWhile_imp member
  have inside : ∀ c ∈ more, decide (c ≠ '\n') = true := by
    intro c member
    rw [decide_eq_true_eq]
    rintro rfl
    exact noFeed member
  have same := Text.withReturns_of_not_mem noFeed
  cases rest with
  | nil =>
    refine ⟨more, [], by simpa using same, .whole [], Or.inl same.symm, ?_⟩
    rw [List.takeWhile_append_of_pos inside, List.takeWhile_nil, List.append_nil]
  | cons d rest =>
    rw [List.takeWhile_append_of_pos inside] at read
    obtain rfl : d = '\n' := by
      by_contra other
      simp [other] at read
    refine ⟨more ++ ['\r'], '\n' :: withReturns rest, by simp [same], .returned rest,
      Or.inr (by rw [same]), ?_⟩
    rw [List.append_assoc, List.takeWhile_append_of_pos inside]
    rfl

theorem pairs_withReturns (c : Char) (text : List Char) :
    (withReturns text).head?.any (fun d => pairs.contains (c, d)) =
      text.head?.any (fun d => pairs.contains (c, d)) := by
  cases text with
  | nil => rfl
  | cons d text =>
    by_cases newline : d = '\n'
    · subst newline
      simp [pairs]
    · rw [Text.withReturns_cons newline, List.head?_cons, List.head?_cons]

/-- Code is read alike, and no line ends in it. -/
theorem codeRest_withReturns {c : Char} {text : List Char} (code : (after c text).1 = .code) :
    after c (withReturns text) = after c text ∧ '\n' ∉ (after c text).2.1 := by
  have mark (d : Char) (notReturn : d ≠ '\r') (notFeed : d ≠ '\n') :
      ((withReturns text).head? == some d) = (text.head? == some d) := by
    rw [Bool.eq_iff_iff, beq_iff_eq, beq_iff_eq, Text.head?_withReturns_iff notReturn notFeed]
  have dots : ((withReturns text).take 2 == ['.', '.']) = (text.take 2 == ['.', '.']) := by
    rw [Bool.eq_iff_iff, beq_iff_eq, beq_iff_eq]
    exact Text.take_two_withReturns_iff (by decide) (by decide)
  unfold after at code ⊢
  rw [mark '/' (by decide) (by decide), mark '*' (by decide) (by decide), dots,
    pairs_withReturns]
  split at code
  · cases code
  rename_i notLine
  rw [if_neg notLine, if_neg notLine]
  split at code
  · cases code
  rename_i notBlock
  rw [if_neg notBlock, if_neg notBlock]
  split at code
  · cases code
  rename_i notString
  rw [if_neg notString, if_neg notString]
  split at code
  · cases code
  rename_i notChar
  rw [if_neg notChar, if_neg notChar]
  by_cases word : isWordChar c = true
  · rw [if_pos word, if_pos word,
      takeWhile_withReturns (by simp [isWordChar]) (by simp [isWordChar])]
    refine ⟨rfl, fun member => ?_⟩
    simpa [isWordChar] using List.mem_takeWhile_imp member
  rw [if_neg word, if_neg word]
  by_cases three : (c = '.' && text.take 2 == ['.', '.']) = true
  · rw [if_pos three, if_pos three]
    exact ⟨rfl, by decide⟩
  rw [if_neg three, if_neg three]
  by_cases pair : text.head?.any (fun d => pairs.contains (c, d)) = true
  · rw [if_pos pair, if_pos pair]
    cases text with
    | nil => cases pair
    | cons d text =>
      have notNewline : d ≠ '\n' := by
        rintro rfl
        simp [pairs] at pair
      rw [Text.withReturns_cons notNewline]
      exact ⟨rfl, by simpa using Ne.symm notNewline⟩
  · rw [if_neg pair, if_neg pair]
    exact ⟨rfl, List.not_mem_nil⟩

/-- A literal is what its quote begins. -/
theorem after_of_isLiteral {c : Char} {text : List Char}
    (literal : (after c text).1.isLiteral = true) :
    c ≠ '\n' ∧ c ≠ '\r' ∧
      ∀ rest, after c rest = ((after c text).1, literalRest c rest) := by
  by_cases string : c = '"'
  · subst string
    exact ⟨by decide, by decide, fun rest => rfl⟩
  by_cases char : c = '\''
  · subst char
    exact ⟨by decide, by decide, fun rest => rfl⟩
  · -- Nothing else begins a literal.
    exfalso
    revert literal
    unfold after
    rw [if_neg string, if_neg char]
    repeat' split
    all_goals exact Bool.false_ne_true

theorem after_line {text : List Char} (line : text.head? = some '/') :
    after '/' text = (.lineComment, text.takeWhile (fun c => decide (c ≠ '\n')), true) := by
  simp [after, line]

theorem after_block (text : List Char) :
    after '/' ('*' :: text) = (.blockComment, '*' :: (blockRest text).1, (blockRest text).2) := by
  simp [after]

/-- A comment is what a slash begins before another slash or an asterisk. -/
theorem after_of_isComment {c : Char} {text : List Char}
    (comment : (after c text).1.isComment = true) :
    c = '/' ∧ (text.head? = some '/' ∨ ∃ rest, text = '*' :: rest) := by
  revert comment
  unfold after
  split
  · rename_i line
    simp only [Bool.and_eq_true, decide_eq_true_eq, beq_iff_eq] at line
    exact fun _ => ⟨line.1, Or.inl line.2⟩
  split
  · rename_i block
    simp only [Bool.and_eq_true, decide_eq_true_eq, beq_iff_eq] at block
    exact fun _ => ⟨block.1, Or.inr (List.head?_eq_some_iff.1 block.2)⟩
  · -- Nothing else is a comment.
    repeat' split
    all_goals exact fun comment => absurd comment Bool.false_ne_true

/-- What is read of a token in a text, and what is read of it with carriage returns. -/
structure ReadAgain (c : Char) (kind : TokenKind) (closed : Bool)
    (more rest other left : List Char) : Prop where
  split : withReturns (more ++ rest) = other ++ left
  leaves : Leaves rest left
  respelled : Respelled more other
  code : kind = .code → other = more
  read : after c (other ++ left) = (kind, other, closed)

section Read

variable {c : Char} {more rest : List Char} {kind : TokenKind} {closed : Bool}
  (read : after c (more ++ rest) = (kind, more, closed))
include read

theorem readAgain_code (code : kind = .code) :
    ReadAgain c kind closed more rest more (withReturns rest) := by
  obtain ⟨again, noFeed⟩ := codeRest_withReturns (by rw [read]; exact code)
  rw [read] at again noFeed
  have same := Text.withReturns_of_not_mem noFeed
  have split : withReturns (more ++ rest) = more ++ withReturns rest := by
    rw [Text.withReturns_append, same]
  exact ⟨split, .whole rest, Or.inl same.symm, fun _ => rfl, split ▸ again⟩

theorem exists_readAgain_literal (literal : kind.isLiteral = true) (oneLine : '\n' ∉ more) :
    ∃ other left, ReadAgain c kind closed more rest other left := by
  obtain ⟨notFeed, notReturn, quoted⟩ := after_of_isLiteral (by rw [read]; exact literal)
  rw [read] at quoted
  have inside := congrArg Prod.snd ((quoted _).symm.trans read)
  obtain ⟨other, left, split, leaves, respelled, again⟩ :=
    literalRest_withReturns notFeed notReturn inside oneLine
  refine ⟨other, left, split, leaves, respelled, ?_, by rw [quoted, again]⟩
  rintro rfl
  cases literal

theorem exists_readAgain_comment (comment : kind.isComment = true) :
    ∃ other left, ReadAgain c kind closed more rest other left := by
  have notCode (other : List Char) : kind = .code → other = more := by
    rintro rfl
    cases comment
  obtain ⟨rfl, line | ⟨text, block⟩⟩ := after_of_isComment (by rw [read]; exact comment)
  · rw [after_line line] at read
    obtain ⟨rfl, taken, rfl⟩ := by simpa only [Prod.mk.injEq] using read
    obtain ⟨other, left, split, leaves, respelled, again⟩ := lineRest_withReturns taken
    refine ⟨other, left, split, leaves, respelled, notCode other, ?_⟩
    have slash : (other ++ left).head? = some '/' := by
      rw [← split]
      exact (Text.head?_withReturns_iff (by decide) (by decide)).2 line
    rw [after_line slash, again]
  · obtain ⟨inner, ends, inside⟩ : ∃ inner ends, blockRest text = (inner, ends) := ⟨_, _, rfl⟩
    rw [block, after_block, inside] at read
    obtain ⟨rfl, rfl, rfl⟩ := by simpa only [Prod.mk.injEq] using read
    rw [List.cons_append, List.cons.injEq] at block
    obtain ⟨-, rfl⟩ := block
    have again := blockRest_withReturns (inner ++ rest)
    rw [inside, Text.withReturns_append] at again
    have mark : withReturns ('*' :: inner) = '*' :: withReturns inner :=
      Text.withReturns_cons (by decide) inner
    refine ⟨'*' :: withReturns inner, withReturns rest, ?_, .whole rest, Or.inl mark.symm,
      notCode _, ?_⟩
    · rw [Text.withReturns_append, mark]
    · rw [List.cons_append, after_block, again]

/-- Each token is read again with carriage returns, unless it is a literal of several lines. -/
theorem exists_readAgain (oneLine : kind.isLiteral = true → '\n' ∉ more) :
    ∃ other left, ReadAgain c kind closed more rest other left := by
  cases kind with
  | code => exact ⟨_, _, readAgain_code read rfl⟩
  | string | char => exact exists_readAgain_literal read rfl (oneLine rfl)
  | lineComment | blockComment => exact exists_readAgain_comment read rfl

end Read

/-- With carriage returns, a literal does not go on to another line. -/
theorem exists_cut_literal {c : Char} {more text : List Char} {kind : TokenKind} {closed : Bool}
    (read : after c text = (kind, more, closed)) (literal : kind.isLiteral = true) :
    ∃ other ends left, withReturns text = other ++ left ∧
      after c (other ++ left) = (kind, other, ends) ∧ '\n' ∉ other := by
  obtain ⟨notFeed, notReturn, quoted⟩ := after_of_isLiteral (by rw [read]; exact literal)
  rw [read] at quoted
  obtain ⟨left, split⟩ := prefix_literalRest c (withReturns text)
  exact ⟨_, _, left, split.symm, by rw [split]; exact quoted _,
    not_mem_literalRest_withReturns notFeed notReturn text⟩

end Lexeme

end CSurvey
