import CSurvey.Metrics
import CSurvey.Proofs.Metrics.Grammar

/-!
# Words that are counted wherever they stand

Branches, and decisions that are no loops, are told by one word each.  In the words
of a body these are, in order, the words of its constructs.
-/

namespace CSurvey

namespace Word

/-- The marks that are counted wherever they stand. -/
def countedMarks : List String :=
  ["if", "else", "switch", "case", "goto", "?", "&&", "||"]

def branchMarks : List String :=
  ["if", "case", "?", "else", "switch", "goto"]

def testMarks : List String :=
  ["if", "case", "?", "&&", "||"]

/-- The words that are counted wherever they stand. -/
def counted (words : List Word) : List Word :=
  words.filter (isOneOf countedMarks)

@[simp]
theorem counted_nil : counted [] = [] :=
  rfl

@[simp]
theorem counted_append (front back : List Word) :
    counted (front ++ back) = counted front ++ counted back :=
  List.filter_append front back

@[simp]
theorem counted_cons_code (mark : String) (rest : List Word) :
    counted (code mark :: rest) =
      if mark ∈ countedMarks then code mark :: counted rest else counted rest := by
  simp [counted, List.filter_cons, isOneOf, code]

@[simp]
theorem counted_cons_plain (plain : PlainWord) (rest : List Word) :
    counted (plain.word :: rest) = counted rest := by
  apply List.filter_cons_of_neg
  rw [plain.isOneOf_of_subset (by decide)]
  exact Bool.false_ne_true

@[simp]
theorem counted_parenthesized (words : List Word) :
    counted (parenthesized words) = counted words := by
  simp [parenthesized, countedMarks]

theorem countP_counted {marks : List String} (known : marks ⊆ countedMarks) (words : List Word) :
    (counted words).countP (isOneOf marks) = words.countP (isOneOf marks) := by
  rw [counted, List.countP_filter]
  apply List.countP_congr
  intro word _
  simp only [isOneOf, Bool.and_eq_true, List.contains_eq_mem, decide_eq_true_eq]
  exact ⟨And.left, fun here => ⟨here, here.1, known here.2⟩⟩

end Word

section Counted

attribute [local simp] Word.countedMarks Token.openBrace Token.closeBrace

theorem Expr.counted_words (expr : Expr) :
    Word.counted expr.words = Word.counted (expr.constructs.map Construct.word) := by
  induction expr <;> simp_all [Construct.word]

mutual

theorem Stmt.counted_words (stmt : Stmt) :
    Word.counted stmt.words = Word.counted (stmt.constructs.map Construct.word) := by
  cases stmt with
  | simple expr => simp [expr.counted_words]
  | block body => simp [body.counted_words]
  | ifThen condition yes => simp [Construct.word, condition.counted_words, yes.counted_words]
  | ifElse condition yes no =>
    simp [Construct.word, condition.counted_words, yes.counted_words, no.counted_words]
  | whileLoop condition body =>
    simp [Construct.word, condition.counted_words, body.counted_words]
  | forLoop first condition later body =>
    simp [Construct.word, first.counted_words, condition.counted_words, later.counted_words,
      body.counted_words]
  | doLoop body condition =>
    cases block : body.isBlock <;>
      simp [block, Construct.word, body.counted_words, condition.counted_words]
  | switch value body => simp [Construct.word, value.counted_words, body.counted_words]
  | caseLabel value body => simp [Construct.word, value.counted_words, body.counted_words]
  | label name body => simp [body.counted_words]
  | goto target => simp [Construct.word, target.counted_words]

theorem Block.counted_words (block : Block) :
    Word.counted block.words = Word.counted (block.constructs.map Construct.word) := by
  cases block with
  | nil => rfl
  | cons head tail => simp [head.counted_words, tail.counted_words]

end

theorem Block.countP_words {marks : List String} (known : marks ⊆ Word.countedMarks)
    (block : Block) :
    block.words.countP (Word.isOneOf marks) =
      block.constructs.countP (fun construct => construct.word.isOneOf marks) := by
  rw [← Word.countP_counted known, block.counted_words, Word.countP_counted known,
    List.countP_map]
  rfl

end Counted

namespace Construct

theorem isOneOf_branchMarks (construct : Construct) :
    construct.word.isOneOf Word.branchMarks = construct.isBranch := by
  cases construct <;> decide

theorem isOneOf_testMarks (construct : Construct) :
    construct.word.isOneOf Word.testMarks = construct.isTest := by
  cases construct <;> decide

end Construct

theorem Token.word_beq_code (tok : Token) (mark : String) :
    (tok.word == .code mark) = (tok.isCode && tok.text == mark) := by
  rw [Bool.eq_iff_iff, beq_iff_eq, Token.word, Word.code, Word.mk.injEq]
  simp [Token.isCode]

theorem Token.isOneOf_word (tok : Token) (marks : List String) :
    tok.word.isOneOf marks = (tok.isCode && marks.contains tok.text) :=
  rfl

namespace Metrics.Progress

theorem step_metrics (depth : Nat) (progress : Progress) (tok : Token) :
    (progress.step depth tok).metrics =
      if tok.isCode then (progress.count depth tok).metrics else progress.metrics := by
  rw [step]
  split <;> rfl

/-- What a word of code adds to the branches, and to the decisions that are no loops. -/
theorem count_counts (depth : Nat) (progress : Progress) (tok : Token) :
    (progress.count depth tok).metrics.branchCount = progress.metrics.branchCount +
        (if tok.text ∈ Word.branchMarks then 1 else 0) ∧
      (progress.count depth tok).metrics.cyclomatic + progress.metrics.loopCount =
        progress.metrics.cyclomatic + (progress.count depth tok).metrics.loopCount +
          (if tok.text ∈ Word.testMarks then 1 else 0) := by
  unfold Word.branchMarks Word.testMarks
  fun_cases count depth progress tok <;> grind [addBranch, addDecision, addLoop]

theorem branchCount_step (depth : Nat) (progress : Progress) (tok : Token) :
    (progress.step depth tok).metrics.branchCount = progress.metrics.branchCount +
      (if tok.word.isOneOf Word.branchMarks then 1 else 0) := by
  rw [step_metrics, Token.isOneOf_word]
  cases tok.isCode with
  | true => simp [(progress.count_counts depth tok).1]
  | false => simp

theorem cyclomatic_step (depth : Nat) (progress : Progress) (tok : Token) :
    (progress.step depth tok).metrics.cyclomatic + progress.metrics.loopCount =
      progress.metrics.cyclomatic + (progress.step depth tok).metrics.loopCount +
        (if tok.word.isOneOf Word.testMarks then 1 else 0) := by
  rw [step_metrics, Token.isOneOf_word]
  cases tok.isCode with
  | true => simp [(progress.count_counts depth tok).2]
  | false => simp

theorem branchCount_foldl (depth : Nat) (progress : Progress) (tokens : List Token) :
    (tokens.foldl (step depth) progress).metrics.branchCount =
      progress.metrics.branchCount +
        (tokens.map Token.word).countP (Word.isOneOf Word.branchMarks) := by
  induction tokens generalizing progress with
  | nil => rfl
  | cons tok rest ih =>
    rw [List.foldl_cons, ih, branchCount_step, List.map_cons, List.countP_cons]
    omega

theorem cyclomatic_foldl (depth : Nat) (progress : Progress) (tokens : List Token) :
    (tokens.foldl (step depth) progress).metrics.cyclomatic + progress.metrics.loopCount =
      progress.metrics.cyclomatic + (tokens.foldl (step depth) progress).metrics.loopCount +
        (tokens.map Token.word).countP (Word.isOneOf Word.testMarks) := by
  induction tokens generalizing progress with
  | nil => rfl
  | cons tok rest ih =>
    have here := progress.cyclomatic_step depth tok
    have later := ih (progress.step depth tok)
    rw [List.foldl_cons, List.map_cons, List.countP_cons]
    omega

end Metrics.Progress

end CSurvey
