import CSurvey.Proofs.Token.Lines
import CSurvey.Proofs.Token.Restart
import Mathlib.Data.List.Induction

/-!
# The scanner at the ends of lines

The scanner stops at each line feed that no token takes in.  Past it, apart from
braces and parentheses, it only knows whether a backslash continues a directive.
So it reads the lines that follow as if they were a text of their own, unless
they begin with something of that directive that does not open another one.
-/

namespace CSurvey

namespace ScanState

theorem endsInBackslash_concat (cs : List Char) (c : Char) :
    endsInBackslash (cs ++ [c]) = if c = '\r' then endsInBackslash cs else c == '\\' := by
  rw [endsInBackslash, List.reverse_concat, List.dropWhile_cons]
  by_cases carriage : c = '\r'
  · rw [if_pos carriage, if_pos (by simp [carriage]), endsInBackslash]
  · rw [if_neg carriage, if_neg (by simpa using carriage), List.head?_cons]
    simp

/-- What a token ends in does not depend on what comes before it. -/
theorem endsInBackslash_append (passed : List Char) {c : Char} (solid : c ≠ '\r')
    (more : List Char) : endsInBackslash (passed ++ c :: more) = endsInBackslash (c :: more) := by
  induction more using List.reverseRecOn with
  | nil =>
    have alone := endsInBackslash_concat [] c
    rw [List.nil_append, if_neg solid] at alone
    rw [endsInBackslash_concat, if_neg solid, alone]
  | append_singleton more d ih =>
    rw [← List.cons_append, ← List.append_assoc, endsInBackslash_concat, endsInBackslash_concat, ih]

/-- The state has passed the characters `passed`, and knows whether they end in a backslash. -/
structure Sees (passed : List Char) (state : ScanState) : Prop where
  here : At passed state
  backslash : state.backslash = endsInBackslash passed

namespace Sees

variable {passed : List Char} {state : ScanState}

theorem initial : Sees [] initial :=
  ⟨.initial, rfl⟩

theorem newline (sees : Sees passed state) : Sees (passed ++ ['\n']) state.newline where
  here := sees.here.newline
  backslash := by rw [endsInBackslash_concat]; rfl

theorem gap (sees : Sees passed state) {c : Char} (blank : Lexeme.isGap c = true) :
    Sees (passed ++ [c]) (state.gap c) where
  here := sees.here.gap blank
  backslash := by
    have notSlash : (c == '\\') = false := by
      apply beq_false_of_ne
      rintro rfl
      cases blank
    rw [endsInBackslash_concat, notSlash, ← sees.backslash, ScanState.gap]

theorem emit (sees : Sees passed state) {c : Char} (solid : Lexeme.isSeparator c = false)
    (kind : TokenKind) (more : List Char) (closed : Bool) :
    Sees (passed ++ c :: more) ((state.opened c).emit kind (c :: more) closed).2 where
  here := (sees.here.opened c).emit kind (c :: more) closed
  backslash := by
    have notReturn : c ≠ '\r' := by
      rintro rfl
      cases solid
    rw [endsInBackslash_append passed notReturn]
    rfl

end Sees

section Runs

variable {first last : ScanState} {cs rest : List Char} {tokens : List Token}

theorem Run.line_le (run : Run first cs tokens last rest) : first.line ≤ last.line := by
  induction run with
  | done => exact Nat.le_refl _
  | step head tail ih =>
    cases head with
    | newline => exact Nat.le_of_succ_le ih
    | gap => exact ih
    | token =>
      simp only [emit, opened_line] at ih
      omega

theorem Run.line_le_of_mem (run : Run first cs tokens last rest) {tok : Token}
    (member : tok ∈ tokens) : tok.span.line ≤ last.line := by
  induction run with
  | done => simp at member
  | step head tail ih =>
    cases head with
    | newline => exact ih member
    | gap => exact ih member
    | token =>
      rcases List.mem_cons.1 member with rfl | later
      · have further := tail.line_le
        simp only [emit] at further ⊢
        omega
      · exact ih later

/-- An open directive is that of the last token, or it was open before the first one. -/
theorem Run.directive_of_inDirective (run : Run first cs tokens last rest)
    (inside : last.inDirective = true) :
    (∃ tok, tokens.getLast? = some tok ∧ tok.directive = true) ∨
      (tokens = [] ∧ first.inDirective = true) := by
  induction run with
  | done => exact Or.inr ⟨rfl, inside⟩
  | @step first second third cs middle rest front back head tail ih =>
    rcases ih inside with ⟨tok, isLast, directive⟩ | ⟨rfl, directive⟩
    · exact Or.inl ⟨tok, by rw [List.getLast?_append, isLast]; rfl, directive⟩
    · cases head with
      | newline =>
        simp only [newline, Bool.and_eq_true] at directive
        exact Or.inr ⟨rfl, directive.1⟩
      | gap => exact Or.inr ⟨rfl, directive⟩
      | token => exact Or.inl ⟨_, rfl, directive⟩

/-- A part of a text ends before a line feed or takes it in. -/
theorem split_at_newline {part rest front back : List Char}
    (eq : part ++ rest = front ++ '\n' :: back) :
    (∃ further, front = part ++ further ∧ rest = further ++ '\n' :: back) ∨
      ∃ beyond, part = front ++ '\n' :: beyond := by
  rcases List.append_eq_append_iff.1 eq with before | ⟨beyond, whole, left⟩
  · exact Or.inl before
  · cases beyond with
    | nil => exact Or.inl ⟨[], by simpa using whole.symm, left.symm⟩
    | cons d beyond =>
      obtain ⟨rfl, -⟩ := List.cons.inj left
      exact Or.inr ⟨beyond, whole⟩

theorem Run.stops {passed front back : List Char}
    (run : Run first (front ++ '\n' :: back) tokens last []) (sees : Sees passed first)
    (within : ∀ tok ∈ tokens, tok.span.line ≤ 1 + (passed ++ front).count '\n' →
      tok.span.endLine ≤ 1 + (passed ++ front).count '\n') :
    ∃ before state after, tokens = before ++ after ∧
      Run first (front ++ '\n' :: back) before state ('\n' :: back) ∧
      Sees (passed ++ front) state ∧ Run state.newline back after last [] := by
  generalize eq : front ++ '\n' :: back = cs at run
  generalize nothing : ([] : List Char) = rest at run
  induction run generalizing front passed with
  | done =>
    subst nothing
    simp at eq
  | @step first second third cs middle rest early late head tail ih =>
    subst nothing
    cases head with
    | newline =>
      cases front with
      | nil =>
        obtain rfl : back = middle := by simpa using eq
        exact ⟨[], first, late, rfl, .done _ _, by simpa using sees, tail⟩
      | cons d front =>
        obtain ⟨rfl, rfl⟩ := List.cons.inj eq
        obtain ⟨before, state, after, rfl, upTo, sees, onward⟩ := ih sees.newline
          (by simpa using within) rfl rfl
        exact ⟨before, state, after, rfl, .step (.newline ..) upTo, by simpa using sees, onward⟩
    | @gap c rest blank =>
      cases front with
      | nil =>
        obtain ⟨rfl, -⟩ := List.cons.inj eq
        cases blank
      | cons d front =>
        obtain ⟨rfl, rfl⟩ := List.cons.inj eq
        obtain ⟨before, state, after, rfl, upTo, sees, onward⟩ := ih (sees.gap blank)
          (by simpa using within) rfl rfl
        exact ⟨before, state, after, rfl, .step (.gap _ _ blank) upTo, by simpa using sees, onward⟩
    | @token c kind more closed rest solid read =>
      have whole : (c :: more) ++ middle = front ++ '\n' :: back := eq.symm
      rcases split_at_newline whole with ⟨further, rfl, rfl⟩ | ⟨beyond, text⟩
      · obtain ⟨before, state, after, rfl, upTo, sees, onward⟩ :=
          ih (sees.emit solid kind more closed) (fun tok member => by
            simpa using within tok (List.mem_cons_of_mem _ member)) rfl rfl
        exact ⟨_ :: before, state, after, rfl, .step (.token _ _ solid read) upTo,
          by simpa using sees, onward⟩
      · -- The token would take the line feed in, and so run past its line.
        have past := within _ (List.mem_cons_self ..)
        rw [(sees.here.opened c).emit_span, text] at past
        simp only [Span.cover, List.count_append, List.count_cons_self] at past
        omega

end Runs

/-- A state between lines outside braces, as if no text stood before them, except that a directive
may go on. -/
structure Resumed (shift : Shift) (own other : ScanState) : Prop where
  offset : other.offset = own.offset + shift.bytes
  line : other.line = own.line + shift.lines
  depth : other.depth = own.depth
  ownLine : own.lineHasCode = false
  otherLine : other.lineHasCode = false
  ownDirective : own.inDirective = false
  ownBackslash : own.backslash = false
  otherBackslash : other.backslash = false

namespace Resumed

variable {shift : Shift} {own other : ScanState}

theorem newline (resumed : Resumed shift own other) :
    Resumed shift own.newline other.newline where
  offset := by
    simp only [ScanState.newline, resumed.offset]
    omega
  line := by
    simp only [ScanState.newline, resumed.line]
    omega
  depth := resumed.depth
  ownLine := rfl
  otherLine := rfl
  ownDirective := by simp only [ScanState.newline, resumed.ownDirective, Bool.false_and]
  ownBackslash := rfl
  otherBackslash := rfl

theorem gap (resumed : Resumed shift own other) (c : Char) :
    Resumed shift (own.gap c) (other.gap c) where
  offset := by
    simp only [ScanState.gap, resumed.offset]
    omega
  line := resumed.line
  depth := resumed.depth
  ownLine := resumed.ownLine
  otherLine := resumed.otherLine
  ownDirective := resumed.ownDirective
  ownBackslash := by simp only [ScanState.gap, resumed.ownBackslash, ite_self]
  otherBackslash := by simp only [ScanState.gap, resumed.otherBackslash, ite_self]

/-- If no directive goes on, the states only differ in where they stand. -/
theorem shifted (resumed : Resumed shift own other) (outside : other.inDirective = false) :
    Shifted shift own other where
  offset := resumed.offset
  line := resumed.line
  depth := resumed.depth
  lineHasCode := resumed.otherLine.trans resumed.ownLine.symm
  inDirective := outside.trans resumed.ownDirective.symm
  backslash := resumed.otherBackslash.trans resumed.ownBackslash.symm

/-- A hash opens a directive, whether one goes on or not. -/
theorem opened_hash (resumed : Resumed shift own other) :
    Shifted shift (own.opened '#') (other.opened '#') where
  offset := by simp only [opened_offset, resumed.offset]
  line := by simp only [opened_line, resumed.line]
  depth := by simp only [ScanState.opened, resumed.ownLine, resumed.otherLine]; exact resumed.depth
  lineHasCode := by simp [ScanState.opened, resumed.ownLine, resumed.otherLine]
  inDirective := by simp [ScanState.opened, resumed.ownLine, resumed.otherLine]
  backslash := by
    simp [ScanState.opened, resumed.ownLine, resumed.otherLine, resumed.ownBackslash,
      resumed.otherBackslash]

end Resumed

section Resume

variable {shift : Shift} {own first last : ScanState} {cs : List Char} {tokens : List Token}

theorem Run.scan_moved (run : Run first cs tokens last []) (shifted : Shifted shift own first) :
    (own.scan 0 cs).map (Token.moved shift) = tokens.map (Token.moved .zero) := by
  obtain ⟨others, final, again, same⟩ := run.restart shifted
  rw [again.scan_eq, scan, List.append_nil, same]

/-- The same token is read, and the same tokens follow it. -/
theorem Run.token_moved {kind : TokenKind} {part rest : List Char} {closed : Bool}
    (run : Run (first.emit kind part closed).2 rest tokens last [])
    (shifted : Shifted shift own first) :
    ((own.emit kind part closed).1 :: (own.emit kind part closed).2.scan 0 rest).map
        (Token.moved shift) =
      ((first.emit kind part closed).1 :: tokens).map (Token.moved .zero) := by
  have emitted : Shifted shift (own.emit kind part closed).2 (first.emit kind part closed).2 :=
    shifted_emit shift shifted.offset shifted.line shifted.depth shifted.inDirective
      (Or.inr shifted.lineHasCode) part closed
  rw [List.map_cons, List.map_cons, run.scan_moved emitted,
    moved_emit shift shifted.offset shifted.line shifted.depth shifted.inDirective]

/-- Lines are read as if they stood alone unless they begin with a token of a directive that goes
on; only a hash would open one there as well. -/
theorem Run.resume_iff (run : Run first cs tokens last []) (resumed : Resumed shift own first) :
    (own.scan 0 cs).map (Token.moved shift) = tokens.map (Token.moved .zero) ↔
      ∀ tok, tokens.head? = some tok → tok.directive = true → tok.text = "#" := by
  generalize nothing : ([] : List Char) = rest at run
  induction run generalizing own with
  | done =>
    subst nothing
    simp [scan]
  | @step here second third cs middle rest early late head tail ih =>
    subst nothing
    cases head with
    | newline =>
      rw [(Step.newline own _).scan_eq, List.nil_append, List.nil_append]
      exact ih resumed.newline rfl
    | @gap c rest blank =>
      rw [(Step.gap own _ blank).scan_eq, List.nil_append, List.nil_append]
      exact ih (resumed.gap c) rfl
    | @token c kind more closed rest solid read =>
      rw [(Step.token own _ solid read).scan_eq, List.singleton_append, List.singleton_append,
        List.head?_cons]
      by_cases hash : c = '#'
      · subst hash
        have alone : more = [] := by
          rw [Lexeme.after_hash] at read
          exact (congrArg (fun found => found.2.1) read).symm
        refine iff_of_true (tail.token_moved resumed.opened_hash) ?_
        rintro tok found -
        rw [← Option.some.inj found, emit_text, alone]
      · rw [opened_of_ne hash] at tail
        rw [opened_of_ne hash, opened_of_ne hash]
        cases inside : here.inDirective with
        | false =>
          refine iff_of_true (tail.token_moved (resumed.shifted inside)) ?_
          intro tok found directive
          rw [← Option.some.inj found] at directive
          cases inside.symm.trans directive
        | true =>
          -- Alone, the first token belongs to no directive.
          refine iff_of_false (fun same => ?_) (fun opens => ?_)
          · have heads := congrArg Token.directive (List.cons.inj same).1
            cases resumed.ownDirective.symm.trans (heads.trans inside)
          · have text := congrArg String.toList (opens _ rfl inside)
            rw [emit_text, String.toList_ofList] at text
            exact hash (List.cons.inj text).1

end Resume

end ScanState

end CSurvey
