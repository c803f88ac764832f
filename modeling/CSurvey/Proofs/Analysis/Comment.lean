import CSurvey.Proofs.Definition.Moved
import CSurvey.Proofs.Risk.Moved
import CSurvey.Proofs.Token.LineEnd
import CSurvey.Proofs.Token.Lookahead
import CSurvey.Proofs.Token.Nesting
import CSurvey.Text.Search

/-!
# Comments are neutral

A block comment that is put between two lines leaves the scanner as it found it.
So the tokens after it are read as before, and as the comment is not significant,
the significant tokens stay the same.

What is read of a text, its definitions and the risks in it, comes from the
significant tokens and from what stands next to what.  A comment between two lines
changes neither, unless an open literal or comment takes it in: one that is not
closed can end right after a line feed, and then it goes on into what is put there.
-/

namespace CSurvey

/-- A block comment. -/
def Text.comment (inner : List Char) : List Char :=
  '/' :: '*' :: (inner ++ ['*', '/'])

namespace Lexeme

/-- A block comment goes on to its first closing mark. -/
theorem blockRest_of_not_hasInfix {inner : List Char}
    (noEnd : Text.hasInfix ['*', '/'] inner = false) (back : List Char) :
    blockRest (inner ++ '*' :: '/' :: back) = (inner ++ ['*', '/'], true) := by
  induction inner with
  | nil => rfl
  | cons c inner ih =>
    simp only [Text.hasInfix, Bool.or_eq_false_iff] at noEnd
    have goesOn : ¬ (c = '*' ∧ (inner ++ '*' :: '/' :: back).head? = some '/') := by
      rintro ⟨rfl, slash⟩
      cases inner with
      | nil => cases slash
      | cons d inner =>
        obtain rfl : d = '/' := Option.some.inj slash
        exact absurd noEnd.1 (by simp)
    rw [List.cons_append, blockRest_cons goesOn, ih noEnd.2]
    rfl

theorem after_comment {inner : List Char} (noEnd : Text.hasInfix ['*', '/'] inner = false)
    (back : List Char) :
    after '/' ('*' :: (inner ++ ['*', '/']) ++ back) =
      (.blockComment, '*' :: (inner ++ ['*', '/']), true) := by
  have inside := blockRest_of_not_hasInfix noEnd back
  have text : '*' :: (inner ++ ['*', '/']) ++ back = '*' :: (inner ++ '*' :: '/' :: back) := by simp
  rw [text, after]
  simp [inside]

end Lexeme

namespace ScanState

/-- A comment after which no backslash can stand leaves the same open. -/
theorem exists_step_comment {state : ScanState} (fresh : state.backslash = false)
    {inner : List Char} (noEnd : Text.hasInfix ['*', '/'] inner = false) (back : List Char) :
    ∃ tok next, Step state (Text.comment inner ++ back) [tok] next back ∧
      tok.isSignificant = false ∧ SameMode state next := by
  have step := Step.token state back (by decide) (Lexeme.after_comment noEnd back)
  rw [opened_of_ne (by decide)] at step
  have ends : endsInBackslash (Text.comment inner) = false := by
    have split : Text.comment inner = ('/' :: '*' :: (inner ++ ['*'])) ++ ['/'] := by
      simp [Text.comment]
    rw [split, endsInBackslash_concat]
    rfl
  refine ⟨_, _, step, rfl, rfl, rfl, ?_, rfl, ends.trans fresh.symm⟩
  exact Bool.or_false _

/-- Where the scanner stands between two lines, with nothing read that what follows could change. -/
structure Between (front : List Char) (before : List Token) (state : ScanState) : Prop where
  run : ∀ other, Run initial (front ++ other) before state other
  backslash : state.backslash = false

theorem between_nil : Between [] [] initial :=
  ⟨fun other => .done _ other, rfl⟩

/-- No token of a line takes its line feed in if none covers the byte after the line feed or ends
there. -/
theorem endLine_le_of_outside {lines back : List Char} {tok : Token}
    (member : tok ∈ CSurvey.scan (String.ofList (lines ++ '\n' :: back)))
    (outside : tok.span.stop < Text.byteLength (lines ++ ['\n']) ∨
      Text.byteLength (lines ++ ['\n']) ≤ tok.span.start)
    (early : tok.span.line ≤ 1 + lines.count '\n') :
    tok.span.endLine ≤ 1 + lines.count '\n' := by
  obtain ⟨passed, part, rest, whole, -, -, span⟩ := (layout_scan _).exists_part member
  rw [String.toList_ofList] at whole
  simp only [span, Span.cover, List.nil_append] at outside early ⊢
  rcases outside with before | beyond
  · have upTo : passed ++ part <+: lines := by
      refine Text.prefix_of_byteLength_le ⟨rest, ?_⟩ ⟨'\n' :: back, rfl⟩ ?_
      · rw [whole, List.append_assoc]
      · have feed : Text.byteLength ['\n'] = 1 := by decide
        rw [Text.byteLength_append lines, feed] at before
        omega
    have feeds := upTo.sublist.count_le '\n'
    omega
  · have longer : lines ++ ['\n'] <+: passed :=
      Text.prefix_of_byteLength_le ⟨back, by simp⟩ ⟨part ++ rest, whole.symm⟩ beyond
    have feeds := longer.sublist.count_le '\n'
    rw [List.count_append, List.count_singleton_self] at feeds
    omega

/-- The scanner stands between two lines if the second begins where no token goes on or ends. -/
theorem exists_between {front back : List Char} (begins : front = [] ∨ front.getLast? = some '\n')
    (outside : ∀ tok ∈ CSurvey.scan (String.ofList (front ++ back)),
      tok.span.stop < Text.byteLength front ∨ Text.byteLength front ≤ tok.span.start) :
    ∃ before state, Between front before state := by
  rcases begins with rfl | newline
  · exact ⟨[], initial, between_nil⟩
  obtain ⟨lines, rfl⟩ := List.getLast?_eq_some_iff.1 newline
  have text : lines ++ ['\n'] ++ back = lines ++ '\n' :: back := by simp
  rw [text] at outside
  obtain ⟨last, run⟩ := exists_run_scan (String.ofList (lines ++ '\n' :: back))
  rw [String.toList_ofList] at run
  obtain ⟨before, state, after, -, upTo, sees, -⟩ := run.stops .initial
    (fun tok member early => endLine_le_of_outside member (outside tok member) early)
  obtain ⟨same, eq, runs⟩ := upTo.cut (by decide)
  obtain rfl : lines = same := List.append_cancel_right eq
  refine ⟨before, state.newline, fun other => ?_, rfl⟩
  have ends := (runs other).append (.step (.newline state other) (.done state.newline other))
  simpa using ends

end ScanState

/-- A comment put between two lines leaves the significant tokens as they are. -/
theorem significant_comment {front back inner : List Char}
    (begins : front = [] ∨ front.getLast? = some '\n')
    (outside : ∀ tok ∈ scan (String.ofList (front ++ back)),
      tok.span.stop < Text.byteLength front ∨ Text.byteLength front ≤ tok.span.start)
    (noEnd : Text.hasInfix ['*', '/'] inner = false) :
    (significant (scan (String.ofList (front ++ (Text.comment inner ++ back))))).map
        Token.unplaced =
      (significant (scan (String.ofList (front ++ back)))).map Token.unplaced := by
  obtain ⟨before, state, between⟩ := ScanState.exists_between begins outside
  obtain ⟨tok, next, step, insignificant, same⟩ :=
    ScanState.exists_step_comment between.backslash noEnd back
  obtain ⟨last, rest⟩ := ScanState.exists_run state back
  have later := rest.scan_unplaced same
  rw [scan, scan, String.toList_ofList, String.toList_ofList, (between.run _).scan_eq,
    (between.run _).scan_eq, step.scan_eq, significant_unplaced, significant_unplaced]
  have passed : significant ([tok].map Token.unplaced) = [] := by
    simp [significant, insignificant]
  simp only [List.map_append, later, significant_append, passed, List.nil_append]

section Unplaced

variable {tokens others : List Token}
  (same : others.map Token.unplaced = tokens.map Token.unplaced)
include same

theorem map_relocated_of_unplaced_eq :
    others.map (Token.relocated fun _ => .zero) = tokens.map (Token.relocated fun _ => .zero) := by
  have relocated := congrArg (List.map (Token.relocated fun _ => .zero)) same
  rwa [List.map_map, List.map_map] at relocated

/-- The same tokens are the same definitions, wherever they stand. -/
theorem counts_of_unplaced_eq (cs other : List Char) (chunkId : Nat) :
    (definitionsFrom other chunkId [] 0 others).map FunctionRecord.counts =
      (definitionsFrom cs chunkId [] 0 tokens).map FunctionRecord.counts := by
  have own := counts_definitionsFrom (fun _ => .zero) cs cs chunkId chunkId [] 0 tokens
  have again := counts_definitionsFrom (fun _ => .zero) cs other chunkId chunkId [] 0 others
  rw [← own, ← again, map_relocated_of_unplaced_eq same]

/-- The same tokens meet the same rules, wherever they stand. -/
theorem verdicts_of_unplaced_eq (table : RiskTable) (cs other : List Char)
    (function : Option String) :
    (table.evaluate other others function).map Finding.verdict =
      (table.evaluate cs tokens function).map Finding.verdict := by
  have own := table.verdict_evaluate Span.keepsJoins_zero cs cs tokens function function
  have again := table.verdict_evaluate Span.keepsJoins_zero cs other others function function
  rw [← own, ← again, map_relocated_of_unplaced_eq same]

end Unplaced

/-- A comment at the beginning of a line where no token goes on or ends leaves the significant
tokens as they are, apart from their places, and so what definitions count and which rules the
text meets. -/
theorem comment_isNeutral {front back inner : List Char}
    (begins : front = [] ∨ front.getLast? = some '\n')
    (outside : ∀ tok ∈ scan (String.ofList (front ++ back)),
      tok.span.stop < Text.byteLength front ∨ Text.byteLength front ≤ tok.span.start)
    (noEnd : Text.hasInfix ['*', '/'] inner = false) :
    let text := front ++ back
    let commented := front ++ (Text.comment inner ++ back)
    let tokens := scan (String.ofList text)
    let others := scan (String.ofList commented)
    (significant others).map Token.unplaced = (significant tokens).map Token.unplaced ∧
      (∀ chunkId, (extractFunctions commented others chunkId).map FunctionRecord.counts =
        (extractFunctions text tokens chunkId).map FunctionRecord.counts) ∧
      ∀ (table : RiskTable) (function : Option String),
        (table.evaluate commented (significant others) function).map Finding.verdict =
          (table.evaluate text (significant tokens) function).map Finding.verdict := by
  intro text commented tokens others
  have same := significant_comment begins outside noEnd
  exact ⟨same, counts_of_unplaced_eq same text commented,
    fun table => verdicts_of_unplaced_eq same table text commented⟩

/-- A comment with a quote, a brace and a hash before the second line of a body. -/
theorem comment_isNeutral_in_body :
    let front := "int f(char *s) \x7b\n".toList
    let back := "  return gets(s);\n\x7d\n".toList
    let inner := " \" \x7d\n#if **".toList
    let text := front ++ back
    let commented := front ++ (Text.comment inner ++ back)
    let tokens := scan (String.ofList text)
    let others := scan (String.ofList commented)
    (front = [] ∨ front.getLast? = some '\n') ∧
      (∀ tok ∈ tokens,
        tok.span.stop < Text.byteLength front ∨ Text.byteLength front ≤ tok.span.start) ∧
      Text.hasInfix ['*', '/'] inner = false ∧
      (significant others).map Token.unplaced = (significant tokens).map Token.unplaced ∧
      (extractFunctions commented others 0).map FunctionRecord.counts =
        (extractFunctions text tokens 0).map FunctionRecord.counts ∧
      (extractFunctions text tokens 0).map FunctionRecord.name = ["f"] ∧
      (RiskTable.builtin.evaluate commented (significant others) none).map Finding.verdict =
        (RiskTable.builtin.evaluate text (significant tokens) none).map Finding.verdict ∧
      RiskTable.builtin.evaluate text (significant tokens) none ≠ [] := by
  intro front back inner text commented tokens others
  have begins : front = [] ∨ front.getLast? = some '\n' := by decide
  have outside : ∀ tok ∈ tokens,
      tok.span.stop < Text.byteLength front ∨ Text.byteLength front ≤ tok.span.start := by
    decide +kernel
  have noEnd : Text.hasInfix ['*', '/'] inner = false := by decide +kernel
  obtain ⟨same, counts, verdicts⟩ := comment_isNeutral begins outside noEnd
  exact ⟨begins, outside, noEnd, same, counts 0, by decide +kernel,
    verdicts RiskTable.builtin none, by decide +kernel⟩

/-- A string that is not closed can end right after a line feed that a backslash escapes, and then
takes in a comment that is put there.  A block comment that is not closed ends with the text, and
is closed by the beginning of a comment that goes on with a slash. -/
theorem comment_joins_open_token :
    let string := "\"\\\n".toList
    let comment := "/*\n".toList
    let blank := "\n".toList
    let strings := scan (String.ofList (string ++ blank))
    let comments := scan (String.ofList comment)
    (∀ tok ∈ strings, tok.directive = false ∧ tok.span.stop ≤ Text.byteLength string) ∧
      (significant (scan (String.ofList (string ++ (Text.comment [] ++ blank))))).map Token.text ≠
        (significant strings).map Token.text ∧
      (∀ tok ∈ comments, tok.directive = false ∧ tok.span.stop ≤ Text.byteLength comment) ∧
      Text.hasInfix ['*', '/'] "/x".toList = false ∧
      (significant (scan (String.ofList (comment ++ Text.comment "/x".toList)))).map Token.text ≠
        (significant comments).map Token.text := by
  decide +kernel

end CSurvey
