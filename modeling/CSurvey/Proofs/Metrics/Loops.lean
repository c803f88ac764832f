import CSurvey.Proofs.Metrics.Counts

/-!
# Loops of a body

A `while` ends a do-loop if it comes right after a brace that closes what was opened
right after `do`.  What measuring has to remember for this is how the open braces began
and what was closed last.  A statement leaves the former as it was, and the latter says
after it whether the statement is a block that `do` stands before.  So the `while` of a
do-loop is passed over if the body of the loop is a block, and counted as one more loop
if it is not.
-/

namespace CSurvey

/-- The part of the progress of measuring by which loops are counted. -/
structure LoopState where
  loops : Nat
  openedByDo : List Bool
  closedDo : Bool
  previous : Option Word

namespace LoopState

/-- What a word is counted as. -/
def added (state : LoopState) (word : Word) : Nat :=
  if word.isOneOf ["for", "do"] then 1
  else if word.isOneOf ["while"] then
    if state.closedDo && state.previous == some (.code Token.closeBrace) then 0 else 1
  else 0

/-- Past one word. -/
def step (state : LoopState) (word : Word) : LoopState where
  loops := state.loops + state.added word
  openedByDo :=
    if word.opens then (state.previous == some (.code "do")) :: state.openedByDo
    else if word.closes then state.openedByDo.tail
    else state.openedByDo
  closedDo :=
    if word.closes then state.openedByDo.headD false
    else state.closedDo && !(word.kind == .code && word.text != "while")
  previous := some word

def run (state : LoopState) (words : List Word) : LoopState :=
  words.foldl step state

variable {state : LoopState}

@[simp]
theorem run_nil : state.run [] = state :=
  rfl

@[simp]
theorem run_cons (word : Word) (rest : List Word) :
    state.run (word :: rest) = (state.step word).run rest :=
  rfl

@[simp]
theorem run_append (front back : List Word) :
    state.run (front ++ back) = (state.run front).run back :=
  List.foldl_append

/-- The words that matter to loops. -/
def loopMarks : List String :=
  ["for", "do", "while", Token.openBrace, Token.closeBrace]

/-- Past words that end in a mark and change nothing about loops. -/
def past (state : LoopState) (mark : String) : LoopState :=
  ⟨state.loops, state.openedByDo, false, some (.code mark)⟩

section Steps

attribute [local simp] step past added Word.isOneOf Word.opens Word.closes Word.code
  Token.openBrace Token.closeBrace

theorem step_of_not_isOneOf {word : Word} (other : word.isOneOf loopMarks = false) :
    (state.step word).loops = state.loops ∧
      (state.step word).openedByDo = state.openedByDo := by
  obtain ⟨kind, text⟩ := word
  cases kind <;> simp_all [loopMarks]

theorem step_code {mark : String} (other : mark ∉ loopMarks) :
    state.step (.code mark) = state.past mark := by
  simp only [loopMarks, List.mem_cons, List.not_mem_nil, or_false, not_or] at other
  simp_all

theorem step_loop {mark : String} (isLoop : mark ∈ ["for", "do"]) :
    state.step (.code mark) = { state.past mark with loops := state.loops + 1 } := by
  simp only [List.mem_cons, List.not_mem_nil, or_false] at isLoop
  rcases isLoop with rfl | rfl <;> simp

theorem step_while (unclosed : state.closedDo = false) :
    state.step (.code "while") = { state.past "while" with loops := state.loops + 1 } := by
  simp [unclosed]

/-- The end of a do-loop around a block. -/
theorem step_while_of_closedDo (closed : state.closedDo = true)
    (brace : state.previous = some (.code Token.closeBrace)) :
    state.step (.code "while") = { state.past "while" with closedDo := true } := by
  simp [closed, brace]

theorem step_openBrace :
    state.step (.code Token.openBrace) =
      { state.past Token.openBrace with
        openedByDo := (state.previous == some (.code "do")) :: state.openedByDo } := by
  simp

theorem step_closeBrace :
    state.step (.code Token.closeBrace) =
      { state.past Token.closeBrace with
        openedByDo := state.openedByDo.tail
        closedDo := state.openedByDo.headD false } := by
  simp

end Steps

end LoopState

namespace Metrics.Progress

def loopState (progress : Progress) : LoopState :=
  ⟨progress.metrics.loopCount, progress.openedByDo, progress.closedDo,
    progress.previous.map Token.word⟩

theorem any_isPunct (previous : Option Token) (mark : String) :
    previous.any (·.isPunct mark) = (previous.map Token.word == some (.code mark)) := by
  cases previous with
  | none => rfl
  | some tok =>
    rw [Option.any_some, Token.isPunct, ← Token.word_beq_code, Option.map_some]
    rfl

theorem loopState_step (depth : Nat) (progress : Progress) (tok : Token) :
    (progress.step depth tok).loopState = progress.loopState.step tok.word := by
  have kind : (tok.word.kind == .code) = tok.isCode := rfl
  have text : tok.word.text = tok.text := rfl
  rw [step, loopState, loopState, LoopState.step, LoopState.mk.injEq]
  simp only [LoopState.added, Word.opens, Word.closes, Token.isOneOf_word, Token.word_beq_code,
    kind, text, ← any_isPunct]
  cases tok.isCode with
  | false => simp
  | true =>
    simp only [Bool.true_and, if_true, Option.map_some]
    fun_cases count depth progress tok <;>
      grind [addBranch, addDecision, addLoop, Token.openBrace, Token.closeBrace]

end Metrics.Progress

def Construct.timesCounted : Construct → Nat
  | whileLoop | forLoop | doBlock => 1
  | doOther => 2
  | _ => 0

@[simp]
def countedLoops : List Construct → Nat
  | [] => 0
  | construct :: rest => construct.timesCounted + countedLoops rest

@[simp]
theorem countedLoops_append (front back : List Construct) :
    countedLoops (front ++ back) = countedLoops front + countedLoops back := by
  induction front with
  | nil => exact (Nat.zero_add _).symm
  | cons construct rest ih =>
    rw [List.cons_append, countedLoops, countedLoops, ih, Nat.add_assoc]

theorem countedLoops_eq (constructs : List Construct) :
    countedLoops constructs = constructs.countP Construct.isLoop + constructs.count .doOther := by
  induction constructs with
  | nil => rfl
  | cons construct rest ih =>
    rw [countedLoops, ih, List.countP_cons, List.count_cons]
    cases construct <;> simp [Construct.timesCounted, Construct.isLoop] <;> omega

namespace Expr

@[simp]
theorem countedLoops_eq_zero (expr : Expr) : countedLoops expr.constructs = 0 := by
  induction expr <;> simp_all [Construct.timesCounted]

/-- An expression changes nothing about loops. -/
theorem run_words (expr : Expr) (state : LoopState) :
    (state.run expr.words).loops = state.loops ∧
      (state.run expr.words).openedByDo = state.openedByDo := by
  induction expr generalizing state with
  | nothing => exact ⟨rfl, rfl⟩
  | word plain => exact LoopState.step_of_not_isOneOf (plain.isOneOf_of_subset (by decide))
  | pair first second firstIH secondIH => simp [firstIH, secondIH]
  | braces inner ih =>
    simp [ih, LoopState.step_openBrace, LoopState.step_closeBrace, LoopState.past]
  | both first second firstIH secondIH | either first second firstIH secondIH =>
    simp (disch := decide) [firstIH, secondIH, LoopState.step_code, LoopState.past]
  | choice condition yes no conditionIH yesIH noIH =>
    simp (disch := decide) [conditionIH, yesIH, noIH, LoopState.step_code, LoopState.past]

end Expr

namespace LoopState

variable (state : LoopState)

theorem step_run_expr (expr : Expr) {mark : String} (other : mark ∉ loopMarks) :
    (state.run expr.words).step (.code mark) = state.past mark := by
  obtain ⟨loops, openedByDo⟩ := expr.run_words state
  rw [step_code other, past, loops, openedByDo, past]

theorem run_parenthesized (expr : Expr) :
    state.run (Word.parenthesized expr.words) = state.past ")" := by
  have opening : state.step (.code "(") = state.past "(" := step_code (by decide)
  have closing : ((state.past "(").run expr.words).step (.code ")") = state.past ")" :=
    step_run_expr _ expr (by decide)
  rw [Word.parenthesized, run_cons, run_append, opening]
  exact closing

end LoopState

namespace Stmt

/-- The mark that a statement ends in. -/
def lastMark : Stmt → String
  | block _ => Token.closeBrace
  | simple _ | goto _ | doLoop _ _ => ";"
  | ifThen _ body | ifElse _ _ body | whileLoop _ body | forLoop _ _ _ body | switch _ body
  | caseLabel _ body | label _ body => body.lastMark

theorem lastMark_of_isBlock {stmt : Stmt} (block : stmt.isBlock = true) :
    stmt.lastMark = Token.closeBrace := by
  cases stmt with
  | block body => rfl
  | _ => cases block

theorem last_ne_do (stmt : Stmt) : some (Word.code stmt.lastMark) ≠ some (.code "do") := by
  fun_induction lastMark stmt <;> first | assumption | decide

end Stmt

section Run

attribute [local simp] LoopState.past Stmt.isBlock Stmt.lastMark Construct.timesCounted Word.code

mutual

theorem Stmt.run_words (stmt : Stmt) (state : LoopState) (unclosed : state.closedDo = false) :
    state.run stmt.words =
      ⟨state.loops + countedLoops stmt.constructs, state.openedByDo,
        stmt.isBlock && state.previous == some (.code "do"), some (.code stmt.lastMark)⟩ := by
  have begins {mark : String} (other : mark ∉ LoopState.loopMarks) :
      state.step (.code mark) = state.past mark := LoopState.step_code other
  cases stmt with
  | simple expr =>
    rw [Stmt.words, LoopState.run_append, LoopState.run_cons,
      LoopState.step_run_expr _ _ (by decide)]
    simp
  | block body =>
    have notDo : some (Word.code Token.openBrace) ≠ some (.code "do") := by decide
    obtain ⟨loops, openedByDo⟩ := body.run_words
      { state.past Token.openBrace with
        openedByDo := (state.previous == some (.code "do")) :: state.openedByDo } rfl notDo
    rw [Stmt.words, LoopState.run_cons, LoopState.step_openBrace, LoopState.run_append,
      LoopState.run_cons, LoopState.step_closeBrace, LoopState.past, loops, openedByDo]
    rfl
  | ifThen condition yes =>
    rw [Stmt.words, LoopState.run_cons, begins (by decide), LoopState.run_append,
      LoopState.run_parenthesized, yes.run_words _ rfl]
    simp
  | ifElse condition yes no =>
    rw [Stmt.words, LoopState.run_cons, begins (by decide), LoopState.run_append,
      LoopState.run_parenthesized, LoopState.run_append, yes.run_words _ rfl, LoopState.run_cons,
      LoopState.step_code (by decide), no.run_words _ rfl]
    simp [Nat.add_assoc]
  | whileLoop condition body =>
    rw [Stmt.words, LoopState.run_cons, LoopState.step_while unclosed, LoopState.run_append,
      LoopState.run_parenthesized, body.run_words _ rfl]
    simp [Nat.add_assoc]
  | forLoop first condition later body =>
    rw [Stmt.words, LoopState.run_cons, LoopState.step_loop (by decide), LoopState.run_cons,
      LoopState.step_code (by decide), LoopState.run_append, LoopState.run_cons,
      LoopState.step_run_expr _ _ (by decide), LoopState.run_append, LoopState.run_cons,
      LoopState.step_run_expr _ _ (by decide), LoopState.run_append, LoopState.run_cons,
      LoopState.step_run_expr _ _ (by decide), body.run_words _ rfl]
    simp [Nat.add_assoc]
  | doLoop body condition =>
    have inside := body.run_words { state.past "do" with loops := state.loops + 1 } rfl
    rw [Stmt.words, LoopState.run_cons, LoopState.step_loop (by decide), LoopState.run_append,
      inside, LoopState.run_cons]
    cases block : body.isBlock with
    | true =>
      have closed : (true && (state.past "do").previous == some (.code "do")) = true := rfl
      rw [closed, LoopState.step_while_of_closedDo rfl (by rw [Stmt.lastMark_of_isBlock block]),
        LoopState.run_append, LoopState.run_parenthesized, LoopState.run_cons,
        LoopState.step_code (by decide), Stmt.constructs, if_pos block]
      simp [Nat.add_assoc, Nat.add_comm 1]
    | false =>
      rw [Bool.false_and, LoopState.step_while rfl, LoopState.run_append,
        LoopState.run_parenthesized, LoopState.run_cons, LoopState.step_code (by decide),
        Stmt.constructs, block, if_neg Bool.false_ne_true]
      simp
      omega
  | switch value body =>
    rw [Stmt.words, LoopState.run_cons, begins (by decide), LoopState.run_append,
      LoopState.run_parenthesized, body.run_words _ rfl]
    simp
  | caseLabel value body =>
    rw [Stmt.words, LoopState.run_cons, begins (by decide), LoopState.run_append,
      LoopState.run_cons, LoopState.step_run_expr _ _ (by decide), body.run_words _ rfl]
    simp
  | label name body =>
    have unchanged : (state.step name.word).loops = state.loops ∧
        (state.step name.word).openedByDo = state.openedByDo :=
      LoopState.step_of_not_isOneOf (name.isOneOf_of_subset (by decide))
    rw [Stmt.words, LoopState.run_cons, LoopState.run_cons, LoopState.step_code (by decide),
      LoopState.past, unchanged.1, unchanged.2, body.run_words _ rfl]
    simp
  | goto target =>
    rw [Stmt.words, LoopState.run_cons, begins (by decide), LoopState.run_append,
      LoopState.run_cons, LoopState.step_run_expr _ _ (by decide)]
    simp

theorem Block.run_words (block : Block) (state : LoopState) (unclosed : state.closedDo = false)
    (notDo : state.previous ≠ some (.code "do")) :
    (state.run block.words).loops = state.loops + countedLoops block.constructs ∧
      (state.run block.words).openedByDo = state.openedByDo := by
  cases block with
  | nil => exact ⟨rfl, rfl⟩
  | cons head tail =>
    have front := head.run_words state unclosed
    rw [beq_eq_false_iff_ne.2 notDo, Bool.and_false] at front
    obtain ⟨loops, openedByDo⟩ := tail.run_words
      ⟨state.loops + countedLoops head.constructs, state.openedByDo, false,
        some (.code head.lastMark)⟩ rfl head.last_ne_do
    rw [Block.words, LoopState.run_append, front, loops, openedByDo, Block.constructs,
      countedLoops_append, Nat.add_assoc]
    exact ⟨rfl, rfl⟩

end

end Run

end CSurvey
