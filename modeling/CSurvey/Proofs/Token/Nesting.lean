import CSurvey.Chunk
import CSurvey.Proofs.Token.Run

/-!
# Nesting of braces

The scanner notes at each token how many braces are open around it.  These notes
follow from the tokens themselves: an opening brace adds one, a closing brace
takes one away, and comments and directives change nothing.  So they stay right
when comments and directives are left out, and a body that is not closed leaves
its brace open at the end.
-/

namespace CSurvey

namespace Token

def depthAfter (tok : Token) : Nat :=
  if tok.isPunct openBrace && !tok.directive then tok.depth + 1 else tok.depth

def isClosing (tok : Token) : Bool :=
  tok.isPunct closeBrace && !tok.directive

/-- Whether a token is a brace of code. -/
def isBrace (tok : Token) : Bool :=
  tok.isPunct openBrace || tok.isPunct closeBrace

theorem isPunct_iff {tok : Token} {mark : String} :
    tok.isPunct mark = true ↔ tok.kind = .code ∧ tok.text = mark := by
  simp [isPunct, isCode]

theorem not_isPunct_of_isPunct {tok : Token} {mark other : String}
    (here : tok.isPunct mark = true) (different : mark ≠ other) : tok.isPunct other = false := by
  rw [isPunct_iff] at here
  simp [isPunct, here.2, different]

theorem isName_of_isPunct {tok : Token} {mark : String} (here : tok.isPunct mark = true)
    (notWord : isIdentifier mark = false) : tok.isName = false := by
  rw [isPunct_iff] at here
  simp [isName, isIdent, here.2, notWord]

theorem depth_le_depthAfter (tok : Token) : tok.depth ≤ tok.depthAfter := by
  unfold depthAfter
  split
  · exact Nat.le_succ _
  · exact Nat.le_refl _

theorem depthAfter_of_not_isBrace {tok : Token} (other : tok.isBrace = false) :
    tok.depthAfter = tok.depth := by
  simp_all [isBrace, depthAfter]

theorem isClosing_of_not_isBrace {tok : Token} (other : tok.isBrace = false) :
    tok.isClosing = false := by
  simp_all [isBrace, isClosing]

theorem isClosing_of_isPunct_openBrace {tok : Token} (opening : tok.isPunct openBrace = true) :
    tok.isClosing = false := by
  simp [isClosing, not_isPunct_of_isPunct opening (show openBrace ≠ closeBrace by decide)]

theorem isPunct_of_isComment {tok : Token} (comment : tok.isComment = true) (mark : String) :
    tok.isPunct mark = false := by
  cases kind : tok.kind <;> simp_all [isComment, TokenKind.isComment, isPunct, isCode]

theorem isComment_or_directive {tok : Token} (other : tok.isSignificant = false) :
    tok.isComment = true ∨ tok.directive = true := by
  cases directive : tok.directive with
  | true => exact Or.inr rfl
  | false => exact Or.inl (by simpa [isSignificant, directive] using other)

theorem depthAfter_of_not_isSignificant {tok : Token} (other : tok.isSignificant = false) :
    tok.depthAfter = tok.depth := by
  rcases isComment_or_directive other with comment | directive
  · simp [depthAfter, isPunct_of_isComment comment]
  · simp [depthAfter, directive]

theorem isClosing_of_not_isSignificant {tok : Token} (other : tok.isSignificant = false) :
    tok.isClosing = false := by
  rcases isComment_or_directive other with comment | directive
  · simp [isClosing, isPunct_of_isComment comment]
  · simp [isClosing, directive]

end Token

theorem mem_significant {tokens : List Token} {tok : Token} :
    tok ∈ significant tokens ↔ tok ∈ tokens ∧ tok.isSignificant = true := by
  simp [significant]

theorem significant_append (front back : List Token) :
    significant (front ++ back) = significant front ++ significant back := by
  simp [significant]

theorem directive_of_mem_significant {tokens : List Token} {tok : Token}
    (member : tok ∈ significant tokens) : tok.directive = false := by
  have keeps := (mem_significant.1 member).2
  simp only [Token.isSignificant, Bool.and_eq_true, Bool.not_eq_true'] at keeps
  exact keeps.2

/-- The tokens around one that is neither a comment nor part of a directive. -/
theorem exists_of_significant_eq {tokens front back : List Token} {tok : Token}
    (whole : significant tokens = front ++ tok :: back) :
    ∃ before after, tokens = before ++ tok :: after ∧ significant before = front ∧
      tok.isSignificant = true ∧ significant after = back := by
  obtain ⟨before, rest, rfl, inFront, inRest⟩ := List.filter_eq_append_iff.1 whole
  obtain ⟨remarks, after, rfl, skipped, keeps, inBack⟩ := List.filter_eq_cons_iff.1 inRest
  have nothing : remarks.filter Token.isSignificant = [] := List.filter_eq_nil_iff.2 skipped
  refine ⟨before ++ remarks, after, by simp, ?_, keeps, inBack⟩
  rw [significant_append, significant, significant, inFront, nothing, List.append_nil]

/-- The tokens stand at the depths that follow from `first` braces open before them, and they
leave `last` braces open. -/
def Nested : Nat → List Token → Nat → Prop
  | first, [], last => first = last
  | first, tok :: rest, last =>
    tok.depth = (if tok.isClosing then first - 1 else first) ∧ Nested tok.depthAfter rest last

namespace Nested

variable {first last : Nat} {tokens : List Token}

theorem append_iff {front back : List Token} :
    Nested first (front ++ back) last ↔
      ∃ middle, Nested first front middle ∧ Nested middle back last := by
  induction front generalizing first with
  | nil => simp [Nested]
  | cons tok front ih =>
    simp only [List.cons_append, Nested, ih]
    constructor
    · rintro ⟨depth, middle, head, tail⟩
      exact ⟨middle, ⟨depth, head⟩, tail⟩
    · rintro ⟨middle, ⟨depth, head⟩, tail⟩
      exact ⟨depth, middle, head, tail⟩

theorem unique {other : Nat} (nested : Nested first tokens last)
    (same : Nested first tokens other) : last = other := by
  induction tokens generalizing first with
  | nil => exact nested.symm.trans same
  | cons tok rest ih => exact ih nested.2 same.2

/-- Comments and directives can be left out. -/
theorem significant (nested : Nested first tokens last) :
    Nested first (significant tokens) last := by
  induction tokens generalizing first with
  | nil => exact nested
  | cons tok rest ih =>
    obtain ⟨depth, tail⟩ := nested
    have tail := ih tail
    unfold CSurvey.significant at tail ⊢
    by_cases keeps : tok.isSignificant = true
    · rw [List.filter_cons_of_pos keeps]
      exact ⟨depth, tail⟩
    · rw [List.filter_cons_of_neg keeps]
      have leaves : tok.isSignificant = false := by simpa using keeps
      rw [Token.isClosing_of_not_isSignificant leaves, if_neg Bool.false_ne_true] at depth
      rwa [Token.depthAfter_of_not_isSignificant leaves, depth] at tail

theorem of_not_isBrace (nested : Nested first tokens last)
    (flat : ∀ tok ∈ tokens, tok.isBrace = false) :
    first = last ∧ ∀ tok ∈ tokens, tok.depth = first := by
  induction tokens generalizing first with
  | nil => exact ⟨nested, by simp⟩
  | cons tok rest ih =>
    obtain ⟨depth, tail⟩ := nested
    obtain ⟨flatHead, flatRest⟩ := List.forall_mem_cons.1 flat
    rw [Token.isClosing_of_not_isBrace flatHead, if_neg Bool.false_ne_true] at depth
    rw [Token.depthAfter_of_not_isBrace flatHead, depth] at tail
    obtain ⟨same, depths⟩ := ih tail flatRest
    exact ⟨same, List.forall_mem_cons.2 ⟨depth, depths⟩⟩

/-- As long as no closing brace gets back to `depth`, more than `depth` braces stay open. -/
theorem lt_depthAfter {depth : Nat} (nested : Nested first tokens last) (inside : depth < first)
    (unclosed : ∀ tok ∈ tokens, tok.isClosing = true → Definition.closes depth tok = false) :
    depth < last ∧ ∀ tok ∈ tokens, depth < tok.depthAfter := by
  induction tokens generalizing first with
  | nil =>
    have same : first = last := nested
    exact ⟨by omega, by simp⟩
  | cons tok rest ih =>
    obtain ⟨here, tail⟩ := nested
    obtain ⟨unclosedHead, unclosedRest⟩ := List.forall_mem_cons.1 unclosed
    have deeper : depth < tok.depth := by
      by_cases closing : tok.isClosing = true
      · have notBack := unclosedHead closing
        rw [if_pos closing] at here
        have mark : tok.isPunct Token.closeBrace = true := by
          simp only [Token.isClosing, Bool.and_eq_true] at closing
          exact closing.1
        simp only [Definition.closes, mark, Bool.true_and, beq_eq_false_iff_ne] at notBack
        omega
      · rw [if_neg closing] at here
        omega
    have after := Nat.lt_of_lt_of_le deeper tok.depth_le_depthAfter
    obtain ⟨atEnd, later⟩ := ih tail after unclosedRest
    exact ⟨atEnd, List.forall_mem_cons.2 ⟨after, later⟩⟩

theorem lt_last {depth : Nat} (nested : Nested first tokens last) (inside : depth < first)
    (unclosed : ∀ tok ∈ tokens, Definition.closes depth tok = false) : depth < last :=
  (nested.lt_depthAfter inside (fun tok member _ => unclosed tok member)).1

theorem depth_foldl {state : LineState} (nested : Nested state.depth tokens last) :
    (tokens.foldl LineState.step state).depth = last := by
  induction tokens generalizing state with
  | nil => exact nested
  | cons tok rest ih => exact ih nested.2

end Nested

namespace ScanState

@[simp]
theorem opened_depth (state : ScanState) (c : Char) : (state.opened c).depth = state.depth := by
  unfold opened
  split <;> rfl

theorem isPunct_emit (state : ScanState) (kind : TokenKind) (cs : List Char) (closed : Bool)
    (mark : String) :
    (state.emit kind cs closed).1.isPunct mark = (kind == .code && cs == mark.toList) := by
  have same : (String.ofList cs == mark) = (cs == mark.toList) := by
    rw [Bool.eq_iff_iff, beq_iff_eq, beq_iff_eq, ← String.toList_inj, String.toList_ofList]
  simp only [Token.isPunct, Token.isCode, emit, same]

theorem emit_nested (state : ScanState) (kind : TokenKind) (cs : List Char) (closed : Bool) :
    Nested state.depth [(state.emit kind cs closed).1] (state.emit kind cs closed).2.depth := by
  have directive : (state.emit kind cs closed).1.directive = state.inDirective := rfl
  refine ⟨?_, ?_⟩
  · rw [Token.isClosing, isPunct_emit, directive]
    simp only [emit, Token.closeBrace]
    congr 1
    simp [Bool.and_right_comm]
  · have opens : Token.openBrace.toList = ['{'] := rfl
    have depth : (state.emit kind cs closed).2.depth =
        if (kind == .code && !state.inDirective && cs == ['{']) = true then state.depth + 1
        else (state.emit kind cs closed).1.depth := rfl
    change Token.depthAfter _ = _
    rw [Token.depthAfter, isPunct_emit, directive, depth, opens, Bool.and_right_comm]
    by_cases brace : (kind == .code && !state.inDirective && cs == ['{']) = true
    · have other : (cs == ['}']) = false := by
        simp only [Bool.and_eq_true, beq_iff_eq] at brace
        rw [brace.2]
        rfl
      rw [if_pos brace, if_pos brace]
      simp [emit, other]
    · rw [if_neg brace, if_neg brace]

theorem Run.nested {first last : ScanState} {cs rest : List Char} {tokens : List Token}
    (run : Run first cs tokens last rest) : Nested first.depth tokens last.depth := by
  induction run with
  | done => rfl
  | step head tail ih =>
    cases head with
    | newline => exact ih
    | gap => exact ih
    | token rest solid read =>
      rw [← opened_depth]
      exact Nested.append_iff.2 ⟨_, emit_nested .., ih⟩

end ScanState

/-- The tokens of a text stand at the depths that its braces give. -/
theorem nested_scan (text : String) : ∃ last, Nested 0 (scan text) last := by
  obtain ⟨last, run⟩ := exists_run_scan text
  exact ⟨last.depth, run.nested⟩

end CSurvey
