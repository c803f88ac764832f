import CSurvey.Proofs.Chunk.Bounds
import CSurvey.Proofs.Definition.Sites
import CSurvey.Proofs.Token.Lines

/-!
# Definitions in chunks

The definitions of a chunk are searched among the tokens of its lines.  No brace
is open after a clean line, so chunks that end at clean lines have together the
definitions of the whole text, as long as no header crosses a clean line.
-/

namespace CSurvey

/-- The tokens that begin on the first `line` lines. -/
def tokensUpTo (tokens : List Token) (line : Nat) : List Token :=
  tokens.filter (fun tok => tok.span.line ≤ line)

def tokensAfter (tokens : List Token) (line : Nat) : List Token :=
  tokens.filter (fun tok => line < tok.span.line)

theorem mem_tokensUpTo {tokens : List Token} {line : Nat} {tok : Token} :
    tok ∈ tokensUpTo tokens line ↔ tok ∈ tokens ∧ tok.span.line ≤ line := by
  simp [tokensUpTo]

theorem mem_tokensAfter {tokens : List Token} {line : Nat} {tok : Token} :
    tok ∈ tokensAfter tokens line ↔ tok ∈ tokens ∧ line < tok.span.line := by
  simp [tokensAfter]

theorem tokensAfter_eq_nil {tokens : List Token} {line : Nat}
    (bounded : ∀ tok ∈ tokens, tok.span.line ≤ line) : tokensAfter tokens line = [] := by
  refine List.filter_eq_nil_iff.2 (fun tok member => ?_)
  simpa using bounded tok member

theorem tokensUpTo_append_tokensAfter {tokens : List Token}
    (sorted : tokens.Pairwise (fun first second => first.span.line ≤ second.span.line))
    (line : Nat) : tokensUpTo tokens line ++ tokensAfter tokens line = tokens := by
  induction tokens with
  | nil => rfl
  | cons tok rest ih =>
    obtain ⟨first, sorted⟩ := List.pairwise_cons.1 sorted
    have ih := ih sorted
    unfold tokensUpTo tokensAfter at ih ⊢
    by_cases early : tok.span.line ≤ line
    · rw [List.filter_cons_of_pos (by simpa using early),
        List.filter_cons_of_neg (by simpa using early), List.cons_append, ih]
    · have late : ∀ other ∈ tok :: rest, line < other.span.line := by
        intro other member
        rcases List.mem_cons.1 member with rfl | later
        · omega
        · have := first other later
          omega
      rw [List.filter_eq_nil_iff.2 (by simpa using late),
        List.filter_eq_self.2 (by simpa using late), List.nil_append]

/-- Tokens begin in the order of their lines. -/
theorem pairwise_line_scan (text : String) :
    (scan text).Pairwise (fun first second => first.span.line ≤ second.span.line) := by
  refine (layout_scan text).pairwise_endLine_le_line.imp_of_mem ?_
  intro first second member _ apart
  exact Nat.le_trans (line_le_endLine_of_mem_scan member) apart

theorem tokensUpTo_tokensAfter (tokens : List Token) (passed last : Nat) (incomplete : Bool) :
    tokensUpTo (tokensAfter tokens passed) last =
      Chunk.tokensOf tokens ⟨passed + 1, last, incomplete⟩ := by
  unfold tokensUpTo tokensAfter Chunk.tokensOf
  rw [List.filter_filter]
  refine List.filter_congr (fun tok _ => ?_)
  rw [Bool.and_comm]
  rfl

/-- The tokens of a run of lines and those after it. -/
theorem tokensAfter_eq (text : String) {passed last : Nat} (ordered : passed ≤ last)
    (incomplete : Bool) :
    tokensAfter (scan text) passed =
      Chunk.tokensOf (scan text) ⟨passed + 1, last, incomplete⟩ ++
        tokensAfter (scan text) last := by
  have sorted : (tokensAfter (scan text) passed).Pairwise
      (fun first second => first.span.line ≤ second.span.line) :=
    (pairwise_line_scan text).filter _
  have halves := tokensUpTo_append_tokensAfter sorted last
  rw [← halves, tokensUpTo_tokensAfter]
  unfold tokensAfter
  rw [List.filter_filter]
  congr 1
  refine List.filter_congr (fun tok _ => ?_)
  rw [Bool.eq_iff_iff, Bool.and_eq_true, decide_eq_true_eq, decide_eq_true_eq]
  omega

theorem tokensUpTo_append_tokensOf (text : String) {passed last : Nat} (ordered : passed ≤ last)
    (incomplete : Bool) :
    tokensUpTo (scan text) passed ++
        Chunk.tokensOf (scan text) ⟨passed + 1, last, incomplete⟩ =
      tokensUpTo (scan text) last := by
  have whole := tokensUpTo_append_tokensAfter (pairwise_line_scan text) passed
  rw [tokensAfter_eq text ordered incomplete, ← List.append_assoc] at whole
  exact List.append_cancel_right
    (whole.trans (tokensUpTo_append_tokensAfter (pairwise_line_scan text) last).symm)

/-- If no token runs past a line, those that end by it are those that begin by it. -/
theorem takeWhile_endLine (text : String) {line : Nat}
    (within : ∀ tok ∈ tokensUpTo (scan text) line, tok.span.endLine ≤ line) :
    (scan text).takeWhile (fun tok => tok.span.endLine ≤ line) =
      tokensUpTo (scan text) line := by
  have nothing : (tokensAfter (scan text) line).takeWhile (fun tok => tok.span.endLine ≤ line) =
      [] := by
    cases after : tokensAfter (scan text) line with
    | nil => rfl
    | cons tok rest =>
      have member : tok ∈ tokensAfter (scan text) line := by simp [after]
      obtain ⟨inText, late⟩ := mem_tokensAfter.1 member
      have ordered := line_le_endLine_of_mem_scan inText
      rw [List.takeWhile_cons_of_neg (by simp only [decide_eq_true_eq]; omega)]
  conv => lhs; rw [← tokensUpTo_append_tokensAfter (pairwise_line_scan text) line]
  rw [List.takeWhile_append_of_pos (by simpa using within), nothing, List.append_nil]

/-- A line is clean if the tokens that begin by it leave no brace open, leave nothing unfinished,
and end by it. -/
theorem isCleanLine_scan_iff {text : String} {line : Nat} :
    isCleanLine (scan text) line = true ↔
      ((tokensUpTo (scan text) line).foldl LineState.step .initial).depth = 0 ∧
      ((tokensUpTo (scan text) line).foldl LineState.step .initial).clean = true ∧
      ∀ tok ∈ tokensUpTo (scan text) line, tok.span.endLine ≤ line := by
  have past : runsPast (scan text) line = false ↔
      ∀ tok ∈ tokensUpTo (scan text) line, tok.span.endLine ≤ line := by
    simp [runsPast, mem_tokensUpTo]
  rw [isCleanLine, Bool.and_eq_true, Bool.and_eq_true, Bool.not_eq_true', past, beq_iff_eq,
    and_assoc]
  constructor
  · rintro ⟨depth, clean, within⟩
    rw [LineState.atLine, takeWhile_endLine text within] at depth clean
    exact ⟨depth, clean, within⟩
  · rintro ⟨depth, clean, within⟩
    rw [LineState.atLine, takeWhile_endLine text within]
    exact ⟨depth, clean, within⟩

/-- No brace is open after a clean line. -/
theorem nested_of_isCleanLine {text : String} {line : Nat}
    (clean : isCleanLine (scan text) line = true) :
    Nested 0 (tokensUpTo (scan text) line) 0 := by
  obtain ⟨last, nested⟩ := nested_scan text
  rw [← tokensUpTo_append_tokensAfter (pairwise_line_scan text) line] at nested
  obtain ⟨middle, nested, -⟩ := Nested.append_iff.1 nested
  have depth : middle = 0 :=
    (show Nested LineState.initial.depth _ middle from nested).depth_foldl.symm.trans
      (isCleanLine_scan_iff.1 clean).1
  rwa [depth] at nested

/-- No brace is open after the tokens between two lines if none is open after either. -/
theorem nested_tokensOf {text : String} {passed last : Nat} (ordered : passed ≤ last)
    (incomplete : Bool) (before : Nested 0 (tokensUpTo (scan text) passed) 0)
    (after : Nested 0 (tokensUpTo (scan text) last) 0) :
    Nested 0 (Chunk.tokensOf (scan text) ⟨passed + 1, last, incomplete⟩) 0 := by
  rw [← tokensUpTo_append_tokensOf text ordered incomplete] at after
  obtain ⟨middle, first, second⟩ := Nested.append_iff.1 after
  rwa [← before.unique first] at second

namespace ChunkBounds

theorem Cover.flatMap_extractFunctions {text : String} {count passed : Nat}
    {all : List ChunkBounds} {sites : List Site}
    (cover : Cover (fun line => isCleanLine (scan text) line = true) count (passed + 1) all)
    (closed : Nested 0 (tokensUpTo (scan text) passed) 0)
    (bounded : ∀ tok ∈ scan text, tok.span.line ≤ count)
    (search : Sites [] (significant (tokensAfter (scan text) passed)) sites)
    (apart : ∀ site ∈ sites, ∀ line, isCleanLine (scan text) line = true → ¬ site.Crosses line)
    (cs : List Char) (chunkId : Nat) :
    all.flatMap (fun bounds =>
        extractFunctions cs (Chunk.tokensOf (scan text) bounds) chunkId) =
      sites.map (fun site => site.record cs chunkId) := by
  induction all generalizing passed sites with
  | nil =>
    obtain rfl : passed = count := by
      simp only [Cover] at cover
      omega
    rw [tokensAfter_eq_nil bounded] at search
    cases search
    rfl
  | cons head rest ih =>
    obtain ⟨first, last, incomplete⟩ := head
    obtain ⟨rfl, lower, upper, ends, tail⟩ := cover
    dsimp only at lower upper ends tail
    have whole := tokensAfter_eq text (Nat.le_of_succ_le lower) incomplete
    rw [List.flatMap_cons]
    by_cases alone : rest = []
    · subst alone
      obtain rfl : last = count := by
        simp only [Cover] at tail
        omega
      rw [tokensAfter_eq_nil bounded, List.append_nil] at whole
      rw [whole] at search
      rw [List.flatMap_nil, List.append_nil, extractFunctions, search.definitionsFrom_eq]
    · have clean := ends alone
      have after := nested_of_isCleanLine clean
      have nested := nested_tokensOf (Nat.le_of_succ_le lower) incomplete closed after
      rw [whole, significant_append] at search
      have early : ∀ tok ∈ significant (Chunk.tokensOf (scan text) ⟨passed + 1, last, incomplete⟩),
          tok.span.line ≤ last := by
        intro tok member
        have inChunk := (mem_significant.1 member).1
        simp only [Chunk.tokensOf, List.mem_filter, Bool.and_eq_true, decide_eq_true_eq] at inChunk
        exact inChunk.2.2
      have late : ∀ tok ∈ significant (tokensAfter (scan text) last), last < tok.span.line :=
        fun tok member => (mem_tokensAfter.1 (mem_significant.1 member).1).2
      obtain ⟨first, second, rfl, inHead, inRest⟩ := search.split nested.significant
        (fun tok => directive_of_mem_significant) (by simp) early late
        (fun site member => apart site member last clean)
      rw [List.map_append, ih tail after inRest
        (fun site member => apart site (List.mem_append_right _ member)),
        extractFunctions, inHead.definitionsFrom_eq]

end ChunkBounds

end CSurvey
