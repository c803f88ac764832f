import CSurvey.Proofs.Analysis.Scope
import CSurvey.Proofs.Metrics.Levels
import CSurvey.Proofs.Metrics.Loops

/-!
# Metrics count structure

What is measured in a body that is spelled by statements, in terms of the constructs of
these statements.  Branches and nesting are just what they are called.  Each loop is
counted once, but a do-loop around a statement that is no block twice: its `while` is
taken for the beginning of one more loop.
-/

namespace CSurvey

/-- What the metrics of a body say about its statements. -/
structure Metrics.Describes (metrics : Metrics) (body : Block) : Prop where
  branches : metrics.branchCount = body.constructs.countP Construct.isBranch
  nesting : metrics.maxNestingDepth = body.nesting
  loops : metrics.loopCount =
    body.constructs.countP Construct.isLoop + body.constructs.count .doOther
  decisions : metrics.cyclomatic =
    1 + body.constructs.countP Construct.isTest + metrics.loopCount

theorem Metrics.Describes.loopCount_eq_iff {metrics : Metrics} {body : Block}
    (describes : metrics.Describes body) :
    metrics.loopCount = body.constructs.countP Construct.isLoop ↔
      .doOther ∉ body.constructs := by
  rw [describes.loops, Nat.add_eq_left, List.count_eq_zero]

theorem Metrics.Progress.loopState_foldl (depth : Nat) (progress : Progress)
    (tokens : List Token) :
    (tokens.foldl (step depth) progress).loopState =
      progress.loopState.run (tokens.map Token.word) := by
  induction tokens generalizing progress with
  | nil => rfl
  | cons tok rest ih =>
    rw [List.foldl_cons, ih, loopState_step]
    rfl

section Measure

variable {tokens : List Token} {depth last : Nat} {body : Block}

theorem describes_measure (nested : Nested depth tokens last)
    (plain : ∀ tok ∈ tokens, tok.directive = false)
    (spelled : tokens.map Token.word = body.words) (params : List Token) (text : List Char) :
    (measure tokens depth params text).Describes body := by
  let start : Metrics.Progress :=
    ⟨{ Metrics.zero with
        lineCount := Text.nonBlankLines text
        parameterCount := countParameters params
        cyclomatic := 1 }, [], false, none⟩
  have branches := start.branchCount_foldl depth tokens
  have tests := start.cyclomatic_foldl depth tokens
  have loops := congrArg LoopState.loops (start.loopState_foldl depth tokens)
  have notDo : start.loopState.previous ≠ some (.code "do") := nofun
  have reached : depth - depth ≤ start.metrics.maxNestingDepth := by omega
  have deepest := nested.maxNestingDepth_foldl plain reached
  rw [spelled] at branches tests loops deepest
  rw [body.countP_words (by decide)] at branches tests
  rw [(body.run_words start.loopState rfl notDo).1, countedLoops_eq] at loops
  rw [(body.nests depth).2, Nat.add_sub_cancel_left] at deepest
  simp only [Construct.isOneOf_branchMarks] at branches
  simp only [Construct.isOneOf_testMarks] at tests
  exact
    { branches := branches.trans (Nat.zero_add _)
      nesting := deepest.trans (Nat.zero_max _)
      loops := loops.trans (Nat.zero_add _)
      decisions := tests.trans (Nat.add_right_comm ..) }

end Measure

theorem Site.Formed.exists_nested {text : String} {site : Site} (formed : site.Formed)
    {front back : List Token} (whole : significant (scan text) = front ++ (site.tokens ++ back))
    (plain : ∀ tok ∈ site.definition.openBrace :: site.definition.bodyTokens,
      tok.directive = false)
    {body : Block}
    (spelled : (site.definition.openBrace :: site.definition.bodyTokens).map Token.word =
      (Stmt.block body).words) :
    site.definition.inner.map Token.word = body.words ∧
      ∃ last, Nested (site.definition.openBrace.depth + 1) site.definition.inner last := by
  rw [List.map_cons, Stmt.words, List.cons.injEq] at spelled
  obtain ⟨opening, spelled⟩ := spelled
  obtain ⟨opened, plain⟩ := List.forall_mem_cons.1 plain
  obtain ⟨_, nested⟩ := nested_scan text
  have nested := nested.significant
  rw [whole, site.tokens_eq, List.append_assoc, List.cons_append] at nested
  obtain ⟨_, -, nested⟩ := Nested.append_iff.1 nested
  obtain ⟨outer, -, nested⟩ := Nested.append_iff.1 nested
  obtain ⟨depth, nested⟩ := nested.of_cons opened
  rw [opening] at depth nested
  obtain rfl := depth rfl
  obtain ⟨last, nested, -⟩ := Nested.append_iff.1 nested
  -- The last word is a closing brace, so the body ends at the depth at which it was opened.
  have ends : last = site.definition.openBrace.depth := by
    rw [← nested.foldl_levelAfter plain, spelled, List.foldl_append, (body.nests _).1]
    rfl
  cases brace : site.definition.closeBrace with
  | none =>
    rw [Definition.bodyTokens, brace, Option.toList_none, List.append_nil] at nested
    have stillOpen := nested.lt_last (Nat.lt_succ_self _) formed.definition.inner
    omega
  | some close =>
    rw [Definition.bodyTokens, brace, Option.toList_some] at nested spelled
    rw [List.map_append] at spelled
    obtain ⟨middle, inside, -⟩ := Nested.append_iff.1 nested
    exact ⟨(List.append_inj' spelled rfl).1, middle, inside⟩

/-- In each function of a source whose body is spelled by statements, the metrics count the
constructs of these statements.  Its loops are counted once each just if all its do-loops are
around blocks. -/
theorem chunkSource_metrics_describe (source : Source) {limit : Nat} (positive : 1 ≤ limit) :
    ∃ chunks, chunkSource source (scan source.text) limit = .ok chunks ∧
      ∀ record ∈ chunks.flatMap Chunk.functions, ∀ body : Block,
        (tokensWithin (significant (scan source.text)) record.body).map Token.word =
            (Stmt.block body).words →
          record.metrics.Describes body ∧
            (record.metrics.loopCount = body.constructs.countP Construct.isLoop ↔
              .doOther ∉ body.constructs) := by
  refine ⟨_, chunkSource_eq source _ positive, fun record member body spelled => ?_⟩
  obtain ⟨site, front, back, formed, whole, atEnd, same⟩ := Chunk.exists_site member
  have sameBody : (site.record source.chars 0).body = record.body := by
    rw [same]
    rfl
  rw [← sameBody, Source.chars, formed.tokensWithin_body whole atEnd] at spelled
  have plain : ∀ tok ∈ site.definition.openBrace :: site.definition.bodyTokens,
      tok.directive = false := by
    intro tok inside
    apply directive_of_mem_significant
    rw [whole, site.tokens_eq]
    exact List.mem_append_right _ (List.mem_append_left _ (List.mem_append_right _ inside))
  obtain ⟨words, last, nested⟩ := formed.exists_nested whole plain spelled
  have plainInside : ∀ tok ∈ site.definition.inner, tok.directive = false := by
    intro tok inside
    exact plain tok (List.mem_cons_of_mem _ (List.mem_append_left _ inside))
  have measured := describes_measure nested plainInside words site.definition.params
  have describes : record.metrics.Describes body := by
    have metrics : (site.record source.chars 0).metrics = record.metrics := by
      rw [same]
      rfl
    rw [← metrics]
    exact ⟨(measured _).branches, (measured _).nesting, (measured _).loops,
      (measured _).decisions⟩
  exact ⟨describes, describes.loopCount_eq_iff⟩

/-- A function with branches and loops, one of them around a statement that is no block. -/
theorem chunkSource_metrics_describe_loops :
    let source := Source.ofText
      "f() \x7b for (;;) if (a && b) \x7b\x7d else goto d; do a; while (b); do \x7b\x7d while (a);\x7d"
    let word (text : String) (plain : (Word.code text).isOneOf Word.structural = false) : Expr :=
      .word ⟨.code text, plain⟩
    let body : Block :=
      .cons (.forLoop .nothing .nothing .nothing
          (.ifElse (.both (word "a" rfl) (word "b" rfl))
            (.block .nil) (.goto (word "d" rfl))))
        (.cons (.doLoop (.simple (word "a" rfl)) (word "b" rfl))
          (.cons (.doLoop (.block .nil) (word "a" rfl)) .nil))
    1 ≤ 100 ∧ ∃ chunks, chunkSource source (scan source.text) 100 = .ok chunks ∧
      ∃ record ∈ chunks.flatMap Chunk.functions,
        (tokensWithin (significant (scan source.text)) record.body).map Token.word =
            (Stmt.block body).words ∧
          record.metrics.Describes body ∧
          record.metrics.loopCount ≠ body.constructs.countP Construct.isLoop := by
  intro source word body
  have positive : 1 ≤ 100 := by decide
  obtain ⟨chunks, made, describe⟩ := chunkSource_metrics_describe source positive
  refine ⟨positive, chunks, made, ?_⟩
  rw [chunkSource_eq source _ positive] at made
  obtain rfl := Except.ok.inj made
  let functions := (Chunk.ofSource source (scan source.text) 100).flatMap Chunk.functions
  let record := functions.getD 0 default
  have member : record ∈ functions := by decide +kernel
  have spelled : (tokensWithin (significant (scan source.text)) record.body).map Token.word =
      (Stmt.block body).words := by
    decide +kernel
  have inside : Construct.doOther ∈ body.constructs := by decide +kernel
  obtain ⟨describes, once⟩ := describe record member body spelled
  exact ⟨record, member, spelled, describes, fun same => once.1 same inside⟩

/-- A do-loop around a statement that is no block is one loop and one decision, but counted as two
of each. -/
theorem chunkSource_counts_trailing_while :
    let source := Source.ofText "void f() \x7b do a; while (b); \x7d"
    let word (text : String) (plain : (Word.code text).isOneOf Word.structural = false) : Expr :=
      .word ⟨.code text, plain⟩
    let body : Block := .cons (.doLoop (.simple (word "a" rfl)) (word "b" rfl)) .nil
    body.constructs = [.doOther] ∧
      ∃ chunks, chunkSource source (scan source.text) 100 = .ok chunks ∧
        ∃ record ∈ chunks.flatMap Chunk.functions,
          (tokensWithin (significant (scan source.text)) record.body).map Token.word =
              (Stmt.block body).words ∧
            record.metrics.loopCount = 2 ∧ record.metrics.cyclomatic = 3 := by
  intro source word body
  refine ⟨rfl, _, chunkSource_eq source _ (by decide), ?_⟩
  decide +kernel

end CSurvey
