import CSurvey.Proofs.Chunk.Headers
import CSurvey.Proofs.Chunk.Tiling
import CSurvey.Proofs.Token.Matching
import Mathlib.Data.List.Induction
import Mathlib.Order.Bounds.Basic

/-!
# Greedy cuts

A clean line is described by the tokens that begin by it: their braces are all
closed, none of them runs on, and the last one that is not a comment may end a
chunk.  A chunk then ends at the latest clean line among as many lines as the
limit allows, or else at the first clean line after these, or else with the text.
-/

namespace CSurvey

/-- A cut may follow the line: no brace is open after it, no token continues past it, and the last
token up to it, comments outside directives not counted, ends a declaration or belongs to a
directive. -/
structure CleanLine (tokens : List Token) (line : Nat) : Prop where
  closed : bracesOpen [] (tokensUpTo tokens line) = []
  whole : ∀ tok ∈ tokens, tok.span.line ≤ line → tok.span.endLine ≤ line
  ended : ∀ tok, ((tokensUpTo tokens line).filter (fun tok => !tok.isRemark)).getLast? = some tok →
    tok.directive = true ∨ tok.isPunct Token.closeBrace = true ∨ tok.isPunct ";" = true

namespace LineState

theorem clean_step_of_ends {tok : Token} (state : LineState)
    (ends : tok.directive = true ∨ tok.isPunct Token.closeBrace = true ∨
      tok.isPunct ";" = true) : (step state tok).clean = true := by
  cases directive : tok.directive with
  | true => simp [step, directive]
  | false =>
    rw [directive] at ends
    rcases ends with impossible | mark | mark
    · cases impossible
    · obtain ⟨kind, text⟩ := Token.isPunct_iff.1 mark
      simp [step, directive, Token.isCode, kind, text]
    · obtain ⟨kind, text⟩ := Token.isPunct_iff.1 mark
      simp [step, directive, Token.isCode, kind, text]

theorem clean_foldl_iff (tokens : List Token) :
    (tokens.foldl step initial).clean = true ↔
      ∀ tok, (tokens.filter (fun tok => !tok.isRemark)).getLast? = some tok →
        tok.directive = true ∨ tok.isPunct Token.closeBrace = true ∨ tok.isPunct ";" = true := by
  induction tokens using List.reverseRecOn with
  | nil => simp [initial]
  | append_singleton front last ih =>
    rw [List.foldl_append, List.foldl_cons, List.foldl_nil, List.filter_append]
    cases remark : last.isRemark with
    | true =>
      rw [clean_step_of_isRemark remark, ih]
      simp [remark]
    | false =>
      have kept : [last].filter (fun tok => !tok.isRemark) = [last] := by simp [remark]
      rw [kept, List.getLast?_concat]
      constructor
      · rintro clean tok same
        obtain rfl := Option.some.inj same
        exact ends_of_clean_step remark clean
      · intro ends
        exact clean_step_of_ends _ (ends last rfl)

end LineState

theorem isCleanLine_iff_cleanLine {text : String} {line : Nat} :
    isCleanLine (scan text) line = true ↔ CleanLine (scan text) line := by
  obtain ⟨last, nested⟩ := nested_scan text
  rw [← tokensUpTo_append_tokensAfter (pairwise_line_scan text) line] at nested
  obtain ⟨middle, nested, -⟩ := Nested.append_iff.1 nested
  have depth : ((tokensUpTo (scan text) line).foldl LineState.step .initial).depth = middle :=
    (show Nested LineState.initial.depth _ middle from nested).depth_foldl
  have length : (bracesOpen [] (tokensUpTo (scan text) line)).length = middle :=
    (show Nested ([] : List Token).length _ middle from nested).length_bracesOpen
  rw [isCleanLine_scan_iff, depth, ← length, List.length_eq_zero_iff, LineState.clean_foldl_iff]
  constructor
  · rintro ⟨closed, ended, whole⟩
    exact ⟨closed, fun tok member begins => whole tok (mem_tokensUpTo.2 ⟨member, begins⟩), ended⟩
  · rintro ⟨closed, whole, ended⟩
    refine ⟨closed, ended, fun tok member => ?_⟩
    obtain ⟨inText, begins⟩ := mem_tokensUpTo.1 member
    exact whole tok inText begins

/-- A chunk of the lines from `first` on, of `count` lines in all, ends where the greedy rule says:
with the last line if fewer than `limit` lines remain, or else at the latest clean one of the first
`limit` lines, or else at the first clean line after them, or else with the last line. -/
structure EndsGreedily (clean : Nat → Prop) (limit count first last : Nat) : Prop where
  short : count + 1 < first + limit → last = count
  latest : first + limit ≤ count + 1 →
    (∃ line, first ≤ line ∧ line < first + limit ∧ clean line) →
      IsGreatest {line | first ≤ line ∧ line < first + limit ∧ clean line} last
  next : first + limit ≤ count + 1 →
    (∀ line, first ≤ line → line < first + limit → ¬ clean line) →
      IsLeast {line | first + limit ≤ line ∧ line ≤ count ∧ clean line} last ∨
        (last = count ∧ ∀ line, first + limit ≤ line → line ≤ count → ¬ clean line)

/-- Up to the limit the search keeps the latest clean line, and past it the search stops at once.
`latest` is the latest one before these lines, which was seen before the limit was reached. -/
theorem cutAfter_cases {limit passed : Nat} {latest : Option Nat} (flags : List Bool)
    (seen : ∀ line ∈ latest, line ≤ passed ∧ passed < limit) :
    (cutAfter limit passed latest flags = none ∧
      (passed + flags.length < limit ∨
        latest = none ∧ ∀ index : Nat, flags[index]? ≠ some true)) ∨
    ∃ cut, cutAfter limit passed latest flags = some cut ∧
      ((cut ≤ limit ∧ limit ≤ passed + flags.length ∧
          ∀ index : Nat, cut < passed + index + 1 → passed + index + 1 ≤ limit →
            flags[index]? ≠ some true) ∨
        (limit < cut ∧ latest = none ∧
          ∀ index : Nat, passed + index + 1 < cut → flags[index]? ≠ some true)) := by
  induction flags generalizing passed latest with
  | nil =>
    refine Or.inl ⟨rfl, ?_⟩
    cases latest with
    | none => exact Or.inr ⟨rfl, by simp⟩
    | some line => exact Or.inl (seen line rfl).2
  | cons clean rest ih =>
    rw [cutAfter, List.length_cons]
    generalize eq : (if clean then some (passed + 1) else latest) = now
    by_cases cuts : (limit ≤ passed + 1 && now.isSome) = true
    · -- The search stops here, at this line or at the latest one before it.
      rw [if_pos cuts]
      simp only [Bool.and_eq_true, decide_eq_true_eq, Option.isSome_iff_exists] at cuts
      obtain ⟨reached, cut, rfl⟩ := cuts
      refine Or.inr ⟨cut, rfl, ?_⟩
      cases clean with
      | true =>
        obtain rfl : passed + 1 = cut := by simpa using eq
        rcases Nat.lt_or_ge limit (passed + 1) with past | within
        · refine Or.inr ⟨past, ?_, fun index before => by omega⟩
          cases latest with
          | none => rfl
          | some line =>
            have early := (seen line rfl).2
            omega
        · exact Or.inl ⟨within, by omega, fun index after upTo => by omega⟩
      | false =>
        have kept : latest = some cut := by simpa using eq
        obtain ⟨before, early⟩ := seen cut kept
        refine Or.inl ⟨by omega, by omega, fun index after upTo => ?_⟩
        obtain rfl : index = 0 := by omega
        simp
    · rw [if_neg cuts]
      simp only [Bool.and_eq_true, decide_eq_true_eq, not_and, Bool.not_eq_true,
        Option.isSome_eq_false_iff, Option.isNone_iff_eq_none] at cuts
      have still : ∀ line ∈ now, line ≤ passed + 1 ∧ passed + 1 < limit := by
        intro line isNow
        have further : passed + 1 < limit := by
          by_contra reached
          rw [cuts (by omega)] at isNow
          cases isNow
        cases clean with
        | true =>
          obtain rfl : passed + 1 = line := by simpa [← eq] using isNow
          exact ⟨Nat.le_refl _, further⟩
        | false =>
          have same : latest = now := by simpa using eq
          have kept : latest = some line := same.trans isNow
          exact ⟨Nat.le_succ_of_le (seen line kept).1, further⟩
      have unclean : now = none → clean = false ∧ latest = none := by
        rintro rfl
        cases clean <;> simp_all
      rcases ih still with ⟨found, reason⟩ | ⟨cut, found, reason⟩
      · refine Or.inl ⟨found, reason.imp (fun short => by omega) ?_⟩
        rintro ⟨nothing, restUnclean⟩
        obtain ⟨rfl, rfl⟩ := unclean nothing
        refine ⟨rfl, fun index => ?_⟩
        cases index with
        | zero => simp
        | succ index => exact restUnclean index
      · refine Or.inr ⟨cut, found, ?_⟩
        rcases reason with ⟨within, long, later⟩ | ⟨past, nothing, earlier⟩
        · refine Or.inl ⟨within, by omega, fun index after upTo => ?_⟩
          cases index with
          | zero =>
            intro isClean
            obtain rfl : clean = true := by simpa using isClean
            rw [if_pos rfl] at eq
            subst eq
            rcases eq_or_clean_of_cutAfter found with same | ⟨beyond, -⟩
            · obtain rfl := Option.some.inj same
              omega
            · omega
          | succ index => exact later index (by omega) (by omega)
        · obtain ⟨rfl, rfl⟩ := unclean nothing
          refine Or.inr ⟨past, rfl, fun index before => ?_⟩
          cases index with
          | zero => simp
          | succ index => exact earlier index (by omega)

/-- The flags of the lines `first` to `count` say which of them are clean. -/
structure Flags (clean : Nat → Prop) (first count : Nat) (flags : List Bool) : Prop where
  total : first + flags.length = count + 1
  reads : ∀ index < flags.length, flags[index]? = some true ↔ clean (first + index)

namespace Flags

variable {clean : Nat → Prop} {first count limit : Nat} {flags : List Bool}

theorem drop (reading : Flags clean first count flags) {size : Nat}
    (bounded : size ≤ flags.length) :
    Flags clean (first + size) count (flags.drop size) := by
  have total := reading.total
  refine ⟨by rw [List.length_drop]; omega, fun index inside => ?_⟩
  rw [List.length_drop] at inside
  rw [List.getElem?_drop, reading.reads _ (by omega), Nat.add_assoc]

theorem not_clean (reading : Flags clean first count flags) {line : Nat} (lower : first ≤ line)
    (upper : line ≤ count) (unflagged : flags[line - first]? ≠ some true) : ¬ clean line := by
  have total := reading.total
  obtain ⟨index, rfl⟩ := Nat.exists_eq_add_of_le lower
  rw [Nat.add_sub_cancel_left] at unflagged
  rwa [← reading.reads index (by omega)]

theorem endsGreedily (reading : Flags clean first count flags) (nonempty : flags ≠ []) :
    EndsGreedily clean limit count first (first + firstSize limit flags - 1) := by
  have total := reading.total
  have positive := List.length_pos_iff.2 nonempty
  have unseen : ∀ line ∈ (none : Option Nat), line ≤ 0 ∧ 0 < limit := by simp
  rcases cutAfter_cases flags unseen with ⟨found, reason⟩ | ⟨cut, found, reason⟩
  · have size : firstSize limit flags = flags.length := by rw [firstSize, found, Option.getD_none]
    have atEnd : first + firstSize limit flags - 1 = count := by omega
    have unclean (reached : first + limit ≤ count + 1) :
        ∀ line, first ≤ line → line ≤ count → ¬ clean line := by
      intro line lower upper
      rcases reason with short | ⟨-, unflagged⟩
      · omega
      · exact reading.not_clean lower upper (unflagged _)
    rw [atEnd]
    refine ⟨fun _ => rfl, fun reached => ?_, fun reached _ => Or.inr ⟨rfl, ?_⟩⟩
    · rintro ⟨line, lower, upper, isClean⟩
      exact absurd isClean (unclean reached line lower (by omega))
    · intro line lower upper
      exact unclean reached line (by omega) upper
  · have size : firstSize limit flags = cut := by rw [firstSize, found, Option.getD_some]
    obtain ⟨after, flagged⟩ := clean_of_cutAfter found
    have inside : cut - 1 < flags.length := (List.getElem?_eq_some_iff.1 flagged).1
    have isClean : clean (first + cut - 1) := by
      rw [Nat.add_sub_assoc after]
      exact (reading.reads _ inside).1 flagged
    rw [size]
    rcases reason with ⟨within, long, later⟩ | ⟨past, -, earlier⟩
    · refine ⟨fun short => by omega, fun _ _ => ⟨⟨by omega, by omega, isClean⟩, ?_⟩, ?_⟩
      · rintro line ⟨lower, upper, lineClean⟩
        by_contra beyond
        exact reading.not_clean lower (by omega) (later _ (by omega) (by omega)) lineClean
      · intro _ noClean
        exact absurd isClean (noClean _ (by omega) (by omega))
    · refine ⟨fun short => by omega, ?_, fun _ _ => Or.inl ⟨⟨by omega, by omega, isClean⟩, ?_⟩⟩
      · rintro - ⟨line, lower, upper, lineClean⟩
        exact absurd lineClean
          (reading.not_clean lower (by omega) (earlier _ (by omega)))
      · rintro line ⟨lower, upper, lineClean⟩
        by_contra before
        exact reading.not_clean (by omega) upper (earlier _ (by omega)) lineClean

end Flags

namespace ChunkBounds

/-- Each chunk begins with the search anew, so each ends where the greedy rule says. -/
theorem endsGreedily_of_mem_boundsOfSizes {clean : Nat → Prop} {openEnd : Bool}
    {first count limit : Nat} {flags : List Bool} (reading : Flags clean first count flags)
    {bounds : ChunkBounds}
    (member : bounds ∈ boundsOfSizes openEnd first (chunkSizes limit 0 flags)) :
    EndsGreedily clean limit count bounds.first bounds.last := by
  by_cases empty : flags = []
  · subst empty
    simp [chunkSizes, boundsOfSizes] at member
  have positive := firstSize_pos limit empty
  have bounded := firstSize_le limit flags
  have shorter : flags.length - firstSize limit flags < flags.length := by omega
  rw [chunkSizes_eq_cons limit empty, boundsOfSizes] at member
  rcases List.mem_cons.1 member with rfl | later
  · exact reading.endsGreedily empty
  · exact endsGreedily_of_mem_boundsOfSizes (reading.drop bounded) later
termination_by flags.length
decreasing_by
  rw [List.length_drop]
  exact shorter

theorem endsGreedily_of_mem_chunkBounds {text : String} {count limit : Nat} {bounds : ChunkBounds}
    (member : bounds ∈ chunkBounds (scan text) count limit) :
    EndsGreedily (CleanLine (scan text)) limit count bounds.first bounds.last := by
  apply endsGreedily_of_mem_boundsOfSizes _ member
  refine ⟨by simp [cleanLines, Nat.add_comm], fun index inside => ?_⟩
  have bounded : index < count := by simpa [cleanLines] using inside
  simp [cleanLines, bounded, Nat.add_comm 1 index, isCleanLine_iff_cleanLine]

end ChunkBounds

theorem EndsGreedily.unclean {clean : Nat → Prop} {limit count first last : Nat}
    (greedy : EndsGreedily clean limit count first last) (long : first + limit ≤ last)
    (bounded : last ≤ count) {line : Nat} (lower : first ≤ line) (upper : line < first + limit) :
    ¬ clean line := by
  intro isClean
  have within := (greedy.latest (by omega) ⟨line, lower, upper, isClean⟩).1.2.1
  omega

theorem Chunk.oversized_of_mem {source : Source} {tokens : List Token} {limit : Nat}
    {chunk : Chunk} (member : chunk ∈ ofSource source tokens limit) :
    chunk.oversized = decide (limit < chunk.endLine - chunk.startLine + 1) := by
  have outlined : chunk.outline ∈ (ofSource source tokens limit).map outline :=
    List.mem_map_of_mem member
  rw [map_outline_ofSource, drafts, List.map_map] at outlined
  obtain ⟨numbered, -, eq⟩ := List.mem_map.1 outlined
  have startLine : chunk.startLine = numbered.1.first := (congrArg Chunk.startLine eq).symm
  have endLine : chunk.endLine = numbered.1.last := (congrArg Chunk.endLine eq).symm
  rw [startLine, endLine]
  exact (congrArg Chunk.oversized eq).symm

/-- Each chunk of a source ends where the greedy rule says, and one that is longer than the limit
has no clean line among as many lines as the limit allows. -/
theorem chunkSource_cuts_greedily (source : Source) {limit : Nat} (positive : 1 ≤ limit) :
    ∃ chunks, chunkSource source (scan source.text) limit = .ok chunks ∧
      ∀ chunk ∈ chunks,
        EndsGreedily (CleanLine (scan source.text)) limit source.lines.count
          chunk.startLine chunk.endLine ∧
        (chunk.oversized = true → ∀ line, chunk.startLine ≤ line →
          line < chunk.startLine + limit → ¬ CleanLine (scan source.text) line) := by
  refine ⟨_, chunkSource_eq source _ positive, fun chunk member => ?_⟩
  obtain ⟨bounds, isBounds, startLine, endLine⟩ := Chunk.exists_bounds_of_mem member
  have greedy := ChunkBounds.endsGreedily_of_mem_chunkBounds isBounds
  rw [← startLine, ← endLine] at greedy
  refine ⟨greedy, fun oversized line lower upper => ?_⟩
  have cover := ChunkBounds.cover_chunkBounds (scan source.text) source.lines.count limit
  obtain ⟨index, found⟩ := List.mem_iff_getElem?.1 isBounds
  obtain ⟨-, ordered, bounded, -⟩ := cover.getElem? found
  rw [← startLine, ← endLine] at ordered
  rw [← endLine] at bounded
  rw [Chunk.oversized_of_mem member, decide_eq_true_eq] at oversized
  exact greedy.unclean (by omega) bounded lower upper

/-- A cut after a blank line, a function that is longer than the limit, and a chunk that is just as
long. -/
theorem chunkSource_cuts_greedily_around_function :
    let source := Source.ofText "int a;\n\nint f()\n\x7b\n\x7d\nint b;\nint c;\n"
    1 ≤ 2 ∧ ∃ chunks, chunkSource source (scan source.text) 2 = .ok chunks ∧
      chunks.map (fun chunk => (chunk.startLine, chunk.endLine, chunk.oversized)) =
        [(1, 2, false), (3, 5, true), (6, 7, false)] ∧
      EndsGreedily (CleanLine (scan source.text)) 2 7 3 5 ∧
      ¬ CleanLine (scan source.text) 3 ∧ ¬ CleanLine (scan source.text) 4 := by
  intro source
  have positive : 1 ≤ 2 := by decide
  obtain ⟨chunks, made, greedy⟩ := chunkSource_cuts_greedily source positive
  have lines : chunks.map (fun chunk => (chunk.startLine, chunk.endLine, chunk.oversized)) =
      [(1, 2, false), (3, 5, true), (6, 7, false)] := by
    rw [chunkSource_eq source _ positive] at made
    obtain rfl := Except.ok.inj made
    decide +kernel
  have second : (3, 5, true) ∈ chunks.map
      (fun chunk => (chunk.startLine, chunk.endLine, chunk.oversized)) := by
    rw [lines]
    decide
  obtain ⟨chunk, isChunk, same⟩ := List.mem_map.1 second
  obtain ⟨startLine, endLine, oversized⟩ := by simpa only [Prod.mk.injEq] using same
  have count : source.lines.count = 7 := by decide +kernel
  obtain ⟨ends, unclean⟩ := greedy chunk isChunk
  rw [startLine, endLine, count] at ends
  rw [startLine] at unclean
  exact ⟨positive, chunks, made, lines, ends, unclean oversized 3 (by decide) (by decide),
    unclean oversized 4 (by decide) (by decide)⟩

end CSurvey
