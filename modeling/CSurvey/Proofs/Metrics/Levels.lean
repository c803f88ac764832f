import CSurvey.Proofs.Metrics.Counts
import CSurvey.Proofs.Token.Nesting

/-!
# Levels of braces

How many braces are open among some words follows from the words alone.  The words of
a statement close what they open, and get as high as its braces nest.  The scanner has
noted the levels as the depths of the tokens, from which the deepest nesting is measured.
-/

namespace CSurvey

namespace Word

theorem closes_of_opens {word : Word} (opens : word.opens = true) : word.closes = false := by
  rw [Word.opens, beq_iff_eq] at opens
  rw [opens]
  rfl

/-- The number of braces open after a word, `level` before it. -/
def levelAfter (level : Nat) (word : Word) : Nat :=
  if word.opens then level + 1 else if word.closes then level - 1 else level

theorem levelAfter_of_neither {word : Word} (notOpening : word.opens = false)
    (notClosing : word.closes = false) (level : Nat) : levelAfter level word = level := by
  simp [levelAfter, notOpening, notClosing]

end Word

/-- The highest number of braces open among some words, `level` before them. -/
def highestLevel (level : Nat) : List Word → Nat
  | [] => level
  | word :: rest => max level (highestLevel (word.levelAfter level) rest)

theorem le_highestLevel (level : Nat) (words : List Word) : level ≤ highestLevel level words := by
  cases words with
  | nil => exact Nat.le_refl _
  | cons word rest => exact Nat.le_max_left _ _

theorem highestLevel_append (level : Nat) (front back : List Word) :
    highestLevel level (front ++ back) =
      max (highestLevel level front) (highestLevel (front.foldl Word.levelAfter level) back) := by
  induction front generalizing level with
  | nil => exact (Nat.max_eq_right (le_highestLevel level back)).symm
  | cons word rest ih =>
    rw [List.cons_append, highestLevel, ih, ← Nat.max_assoc]
    rfl

/-- The words close what they open, and nest `height` braces. -/
def Nests (words : List Word) (height : Nat) : Prop :=
  ∀ level, words.foldl Word.levelAfter level = level ∧ highestLevel level words = level + height

namespace Nests

variable {front back words : List Word} {height other : Nat}

theorem nil : Nests [] 0 :=
  fun _ => ⟨rfl, rfl⟩

theorem append (first : Nests front height) (second : Nests back other) :
    Nests (front ++ back) (max height other) := by
  intro level
  obtain ⟨after, highest⟩ := first level
  rw [List.foldl_append, highestLevel_append, after, highest, (second level).2,
    Nat.add_max_add_left]
  exact ⟨(second level).1, rfl⟩

theorem cons {word : Word} (notOpening : word.opens = false) (notClosing : word.closes = false)
    (nests : Nests words height) : Nests (word :: words) height := by
  intro level
  obtain ⟨after, highest⟩ := nests level
  rw [List.foldl_cons, highestLevel, Word.levelAfter_of_neither notOpening notClosing, highest]
  exact ⟨after, Nat.max_eq_right (Nat.le_add_right _ _)⟩

theorem snoc {word : Word} (notOpening : word.opens = false) (notClosing : word.closes = false)
    (nests : Nests words height) : Nests (words ++ [word]) height := by
  have last := nests.append (nil.cons notOpening notClosing)
  rwa [Nat.max_zero] at last

theorem parenthesized (nests : Nests words height) :
    Nests (Word.parenthesized words) height :=
  (nests.snoc rfl rfl).cons rfl rfl

theorem braces (nests : Nests words height) :
    Nests (.code Token.openBrace :: (words ++ [.code Token.closeBrace])) (height + 1) := by
  intro level
  obtain ⟨after, highest⟩ := nests (level + 1)
  have first : (Word.code Token.openBrace).levelAfter level = level + 1 := rfl
  have last : (Word.code Token.closeBrace).levelAfter (level + 1) = level := rfl
  rw [List.foldl_cons, List.foldl_append, highestLevel, first, highestLevel_append, after, highest]
  simp only [List.foldl_cons, List.foldl_nil, highestLevel, last, true_and]
  omega

end Nests

theorem Expr.nests (expr : Expr) : Nests expr.words expr.nesting := by
  induction expr with
  | nothing => exact .nil
  | word plain => exact Nests.nil.cons plain.opens_eq_false plain.closes_eq_false
  | pair first second firstIH secondIH => exact firstIH.append secondIH
  | braces inner ih => exact ih.braces
  | both first second firstIH secondIH => exact firstIH.append (secondIH.cons rfl rfl)
  | either first second firstIH secondIH => exact firstIH.append (secondIH.cons rfl rfl)
  | choice condition yes no conditionIH yesIH noIH =>
    apply conditionIH.append
    apply Nests.cons rfl rfl
    apply yesIH.append
    exact noIH.cons rfl rfl

mutual

theorem Stmt.nests (stmt : Stmt) : Nests stmt.words stmt.nesting := by
  cases stmt with
  | simple expr => exact expr.nests.snoc rfl rfl
  | block body => exact body.nests.braces
  | ifThen condition yes => exact (condition.nests.parenthesized.append yes.nests).cons rfl rfl
  | ifElse condition yes no =>
    exact (condition.nests.parenthesized.append (yes.nests.append (no.nests.cons rfl rfl))).cons
      rfl rfl
  | whileLoop condition body =>
    exact (condition.nests.parenthesized.append body.nests).cons rfl rfl
  | forLoop first condition later body =>
    apply Nests.cons rfl rfl
    apply Nests.cons rfl rfl
    apply first.nests.append
    apply Nests.cons rfl rfl
    apply condition.nests.append
    apply Nests.cons rfl rfl
    apply later.nests.append
    exact body.nests.cons rfl rfl
  | doLoop body condition =>
    exact (body.nests.append ((condition.nests.parenthesized.snoc rfl rfl).cons rfl rfl)).cons
      rfl rfl
  | switch value body => exact (value.nests.parenthesized.append body.nests).cons rfl rfl
  | caseLabel value body => exact (value.nests.append (body.nests.cons rfl rfl)).cons rfl rfl
  | label name body =>
    exact (body.nests.cons rfl rfl).cons name.opens_eq_false name.closes_eq_false
  | goto target => exact (target.nests.snoc rfl rfl).cons rfl rfl

/-- The statements between two braces close what they open. -/
theorem Block.nests (block : Block) : Nests block.words block.nesting := by
  cases block with
  | nil => exact .nil
  | cons head tail => exact head.nests.append tail.nests

end

namespace Metrics.Progress

theorem maxNestingDepth_step (depth : Nat) (progress : Progress) (tok : Token) :
    (progress.step depth tok).metrics.maxNestingDepth =
      if tok.word.opens then max progress.metrics.maxNestingDepth (tok.depth + 1 - depth)
      else progress.metrics.maxNestingDepth := by
  rw [step_metrics, Word.opens, Token.word_beq_code]
  cases tok.isCode with
  | true =>
    unfold Token.openBrace
    fun_cases count depth progress tok <;> grind [addBranch, addDecision, addLoop, Token.openBrace]
  | false => rfl

end Metrics.Progress

namespace Nested

variable {first last : Nat} {tok : Token} {tokens : List Token}

/-- What the depth of a token says about braces is what its word says. -/
theorem of_cons (nested : Nested first (tok :: tokens) last) (code : tok.directive = false) :
    (tok.word.opens = true → tok.depth = first) ∧
      Nested (tok.word.levelAfter first) tokens last := by
  obtain ⟨depth, nested⟩ := nested
  have closing : tok.isClosing = tok.word.closes := by
    simp [Token.isClosing, code, Token.isPunct, Word.closes, Token.word_beq_code]
  have after : tok.depthAfter = if tok.word.opens then tok.depth + 1 else tok.depth := by
    simp [Token.depthAfter, code, Token.isPunct, Word.opens, Token.word_beq_code]
  rw [closing] at depth
  rw [after, depth] at nested
  cases opens : tok.word.opens with
  | true =>
    rw [Word.closes_of_opens opens, if_neg Bool.false_ne_true] at depth nested
    rw [opens, if_pos rfl] at nested
    rw [Word.levelAfter, if_pos opens]
    exact ⟨fun _ => depth, nested⟩
  | false =>
    rw [opens, if_neg Bool.false_ne_true] at nested
    rw [Word.levelAfter, opens, if_neg Bool.false_ne_true]
    exact ⟨fun opening => absurd opening Bool.false_ne_true, nested⟩

theorem foldl_levelAfter (nested : Nested first tokens last)
    (plain : ∀ tok ∈ tokens, tok.directive = false) :
    (tokens.map Token.word).foldl Word.levelAfter first = last := by
  induction tokens generalizing first with
  | nil => exact nested
  | cons tok rest ih =>
    obtain ⟨code, plain⟩ := List.forall_mem_cons.1 plain
    exact ih (nested.of_cons code).2 plain

theorem maxNestingDepth_foldl {depth : Nat} {progress : Metrics.Progress}
    (nested : Nested first tokens last) (plain : ∀ tok ∈ tokens, tok.directive = false)
    (reached : first - depth ≤ progress.metrics.maxNestingDepth) :
    (tokens.foldl (Metrics.Progress.step depth) progress).metrics.maxNestingDepth =
      max progress.metrics.maxNestingDepth
        (highestLevel first (tokens.map Token.word) - depth) := by
  induction tokens generalizing first progress with
  | nil => exact (Nat.max_eq_left reached).symm
  | cons tok rest ih =>
    obtain ⟨code, plain⟩ := List.forall_mem_cons.1 plain
    obtain ⟨here, nested⟩ := nested.of_cons code
    have step : (progress.step depth tok).metrics.maxNestingDepth =
        max progress.metrics.maxNestingDepth (tok.word.levelAfter first - depth) := by
      rw [Metrics.Progress.maxNestingDepth_step, Word.levelAfter]
      split
      next opens => rw [here opens]
      next => split <;> omega
    have higher := le_highestLevel (tok.word.levelAfter first) (rest.map Token.word)
    rw [List.foldl_cons, List.map_cons, highestLevel, ih nested plain (by omega), step]
    omega

end Nested

end CSurvey
