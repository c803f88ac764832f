import CSurvey.Proofs.Checked.Basic
import CSurvey.Proofs.Chunk.Bounds
import Mathlib.Data.List.ModifyLast

/-!
# Planning chunks by line

Planning keeps tables with a place for each line and one before the first line.
One pass over the tokens fills them, one over the lines reads them, and the
search for cuts goes back to the line after each cut.  A token may run past the
last line, and the tables have no place for that.
-/

namespace CSurvey.Checked

section Table

variable {α : Type}

/-- The values of a function at the positions below `length`. -/
def table (length : Nat) (value : Nat → α) : List α :=
  (List.range length).map value

variable {length position : Nat} {value : Nat → α}

theorem table_congr {other : Nat → α} (same : ∀ place < length, value place = other place) :
    table length value = table length other :=
  List.map_congr_left (fun place inside => same place (List.mem_range.1 inside))

theorem replicate_eq_table (length : Nat) (value : α) :
    List.replicate length value = table length (fun _ => value) := by
  rw [table, List.map_const', List.length_range]

theorem item_table (inside : position < length) :
    item (table length value) position = .ok (value position) :=
  item_eq_ok (by rw [table, List.getElem?_map, List.getElem?_range inside, Option.map_some])

theorem update_table (inside : position < length) (new : α) :
    update (table length value) position new =
      .ok (table length (fun place => if place = position then new else value place)) := by
  rw [update_eq_ok (by simpa [table] using inside)]
  congr 1
  apply List.ext_getElem (by simp [table])
  intro place _ _
  simp only [table, List.getElem_set, List.getElem_map, List.getElem_range, eq_comm (a := position)]

end Table

def markLines : (steps line : Nat) → List Bool → Checked (List Bool)
  | 0, _, flags => .ok flags
  | steps + 1, line, flags => do markLines steps (line + 1) (← update flags line true)

/-- What the tokens say about each line: the state after the last token that ends on it, and
whether a token runs on past it. -/
structure LineTables where
  states : List (Option LineState)
  spanned : List Bool

/-- Note the state after a token that ends on a line, if that is one of the `count` lines. -/
def noteState (count : Nat) (states : List (Option LineState)) (line : Nat) (state : LineState) :
    Checked (List (Option LineState)) :=
  if line ≤ count then update states line (some state) else .ok states

def recordTokens (count : Nat) : LineState → LineTables → List Token → Checked LineTables
  | _, tables, [] => .ok tables
  | before, tables, tok :: rest => do
    let passed := min tok.span.endLine (count + 1) - tok.span.line
    let spanned ← markLines passed tok.span.line tables.spanned
    let state := before.step tok
    let states ← noteState count tables.states tok.span.endLine state
    recordTokens count state ⟨states, spanned⟩ rest

/-- Flag the lines from `line` on at which a cut may follow, and give the state after them. -/
def markClean (tables : LineTables) :
    (steps line : Nat) → LineState → List Bool → Checked (LineState × List Bool)
  | 0, _, state, flags => .ok (state, flags)
  | steps + 1, line, before, flags => do
    let state := (← item tables.states line).getD before
    let clean := state.depth == 0 && state.clean && !(← item tables.spanned line)
    markClean tables steps (line + 1) state (← update flags line clean)

/-- Cut greedily from `line` on, with the chunk that begins at line `start` open.  What is left
after the last cut begins at the line that is given back with the chunks. -/
def cutFrom (flags : List Bool) (count limit : Nat) :
    (steps line start : Nat) → Option Nat → List ChunkBounds → Checked (Nat × List ChunkBounds)
  | 0, line, start, _, bounds => if line ≤ count then .error .steps else .ok (start, bounds)
  | steps + 1, line, start, before, bounds =>
    if line ≤ count then do
      let latest := if ← item flags line then some line else before
      let size := (← minus line start) + 1
      match (if limit ≤ size then latest else none) with
      | some cut =>
        cutFrom flags count limit steps (cut + 1) (cut + 1) none (bounds ++ [⟨start, cut, false⟩])
      | none => cutFrom flags count limit steps (line + 1) start latest bounds
    else .ok (start, bounds)

/-- The bounds of the chunks, for a limit of at least one line. -/
def planChunks (tokens : List Token) (count limit : Nat) :
    Checked (Except Fault (List ChunkBounds)) :=
  if limit = 0 then .ok (.error (.argument .zeroChunkSize))
  else if count = 0 then .ok (.ok [])
  else do
    let unknown := List.replicate (count + 1) false
    let tables ← recordTokens count .initial ⟨List.replicate (count + 1) none, unknown⟩ tokens
    let (last, flags) ← markClean tables count 1 .initial unknown
    let openEnd := 0 < last.depth || tokens.getLast?.any (fun tok => !tok.terminated)
    let (start, bounds) ← cutFrom flags count limit ((count + 1) * (count + 2)) 1 1 none []
    if start ≤ count then return .ok (bounds ++ [⟨start, count, openEnd⟩])
    else return .ok (bounds.modifyLast (fun last => { last with incomplete := openEnd }))

theorem markLines_table {length steps line : Nat} (inside : steps = 0 ∨ line + steps ≤ length)
    (marked : Nat → Bool) :
    markLines steps line (table length marked) =
      .ok (table length (fun place => marked place || (line ≤ place && place < line + steps))) := by
  induction steps generalizing line marked with
  | zero =>
    refine congrArg _ (table_congr (fun place _ => ?_))
    have outside : ¬ (line ≤ place ∧ place < line + 0) := by omega
    simp only [← Bool.decide_and, outside, decide_false, Bool.or_false]
  | succ steps ih =>
    rw [markLines, update_table (by omega), ok_bind, ih (by omega)]
    refine congrArg _ (table_congr (fun place _ => ?_))
    by_cases here : place = line
    · simp [here]
    · have same : (line + 1 ≤ place ∧ place < line + 1 + steps) ↔
          (line ≤ place ∧ place < line + (steps + 1)) := by omega
      simp only [here, if_false, ← Bool.decide_and, same]

theorem noteState_table {count : Nat} (states : Nat → Option LineState) (line : Nat)
    (state : LineState) :
    noteState count (table (count + 1) states) line state =
      .ok (table (count + 1) (fun place => if place = line then some state else states place)) := by
  rw [noteState]
  split
  · exact update_table (by omega) _
  · refine congrArg _ (table_congr (fun place _ => ?_))
    rw [if_neg (by omega)]

/-- The state after the last of some tokens that ends on a line. -/
def stateAt (line : Nat) : LineState → List Token → Option LineState
  | _, [] => none
  | before, tok :: rest =>
    let state := before.step tok
    stateAt line state rest <|> if tok.span.endLine = line then some state else none

theorem recordTokens_table {count : Nat} (before : LineState) (states : Nat → Option LineState)
    (spanned : Nat → Bool) (tokens : List Token) :
    recordTokens count before ⟨table (count + 1) states, table (count + 1) spanned⟩ tokens =
      .ok ⟨table (count + 1) (fun line => stateAt line before tokens <|> states line),
        table (count + 1) (fun line => spanned line || runsPast tokens line)⟩ := by
  induction tokens generalizing before states spanned with
  | nil => simp [recordTokens, stateAt, runsPast]
  | cons tok rest ih =>
    have passed : min tok.span.endLine (count + 1) - tok.span.line = 0 ∨
        tok.span.line + (min tok.span.endLine (count + 1) - tok.span.line) ≤ count + 1 := by
      omega
    simp only [recordTokens, markLines_table passed, ok_bind, noteState_table, ih]
    congr 2
    · refine table_congr (fun line _ => ?_)
      simp only [stateAt, eq_comm (a := line)]
      cases stateAt line (before.step tok) rest <;> split <;> rfl
    · refine table_congr (fun line inside => ?_)
      have same : (tok.span.line ≤ line ∧ line < tok.span.line +
          (min tok.span.endLine (count + 1) - tok.span.line)) ↔
            (tok.span.line ≤ line ∧ line < tok.span.endLine) := by omega
      simp only [runsPast, List.any_cons, ← Bool.or_assoc, ← Bool.decide_and, same]

theorem recordTokens_eq (count : Nat) (tokens : List Token) :
    recordTokens count .initial
        ⟨List.replicate (count + 1) none, List.replicate (count + 1) false⟩ tokens =
      .ok ⟨table (count + 1) (fun line => stateAt line .initial tokens),
        table (count + 1) (runsPast tokens)⟩ := by
  simp [replicate_eq_table, recordTokens_table]

theorem stateAt_eq_none {line : Nat} {tokens : List Token} (before : LineState)
    (later : ∀ tok ∈ tokens, line < tok.span.endLine) : stateAt line before tokens = none := by
  induction tokens generalizing before with
  | nil => rfl
  | cons tok rest ih =>
    obtain ⟨here, later⟩ := List.forall_mem_cons.1 later
    rw [stateAt, ih _ later, if_neg (by omega)]
    rfl

theorem stateAt_getD {line : Nat} {tokens : List Token} (before : LineState)
    (sorted : tokens.Pairwise (fun first second => first.span.endLine ≤ second.span.endLine)) :
    (stateAt (line + 1) before tokens).getD
        ((tokens.takeWhile (fun tok => tok.span.endLine ≤ line)).foldl LineState.step before) =
      (tokens.takeWhile (fun tok => tok.span.endLine ≤ line + 1)).foldl LineState.step before := by
  induction tokens generalizing before with
  | nil => rfl
  | cons tok rest ih =>
    obtain ⟨first, sorted⟩ := List.pairwise_cons.1 sorted
    have later := ih (before.step tok) sorted
    rcases Nat.lt_trichotomy tok.span.endLine (line + 1) with early | here | late
    · rw [stateAt, if_neg (by omega), List.takeWhile_cons_of_pos (by simp; omega),
        List.takeWhile_cons_of_pos (by simp; omega), List.foldl_cons, List.foldl_cons, ← later]
      cases stateAt (line + 1) (before.step tok) rest <;> rfl
    · have nothing : rest.takeWhile (fun tok => tok.span.endLine ≤ line) = [] := by
        cases rest with
        | nil => rfl
        | cons next rest =>
          have after := first next (List.mem_cons_self ..)
          exact List.takeWhile_cons_of_neg (by simp; omega)
      rw [nothing, List.foldl_nil] at later
      rw [stateAt, if_pos here, List.takeWhile_cons_of_neg (by simp; omega),
        List.takeWhile_cons_of_pos (by simp; omega), List.foldl_cons, ← later]
      cases stateAt (line + 1) (before.step tok) rest <;> rfl
    · have nothing : stateAt (line + 1) before (tok :: rest) = none :=
        stateAt_eq_none before (List.forall_mem_cons.2
          ⟨late, fun next member => Nat.lt_of_lt_of_le late (first next member)⟩)
      rw [nothing, List.takeWhile_cons_of_neg (by simp; omega),
        List.takeWhile_cons_of_neg (by simp; omega)]
      rfl

theorem stateAt_getD_atLine {tokens : List Token}
    (sorted : tokens.Pairwise (fun first second => first.span.endLine ≤ second.span.endLine))
    (line : Nat) :
    (stateAt (line + 1) .initial tokens).getD (LineState.atLine tokens line) =
      LineState.atLine tokens (line + 1) :=
  stateAt_getD .initial sorted

theorem markClean_table {count line steps : Nat} {tokens : List Token} {flags : Nat → Bool}
    (sorted : tokens.Pairwise (fun first second => first.span.endLine ≤ second.span.endLine))
    (inside : line + steps ≤ count) :
    markClean ⟨table (count + 1) (fun line => stateAt line .initial tokens),
        table (count + 1) (runsPast tokens)⟩ steps (line + 1) (LineState.atLine tokens line)
        (table (count + 1) flags) =
      .ok (LineState.atLine tokens (line + steps), table (count + 1) (fun place =>
        if line < place ∧ place ≤ line + steps then isCleanLine tokens place
        else flags place)) := by
  induction steps generalizing line flags with
  | zero =>
    have nowhere (place : Nat) : ¬ (line < place ∧ place ≤ line) := by omega
    simp only [markClean, Nat.add_zero, nowhere, if_false]
  | succ steps ih =>
    have here : line + 1 < count + 1 := by omega
    simp only [markClean, item_table here, ok_bind, update_table here, stateAt_getD_atLine sorted]
    rw [ih (by omega), Nat.add_right_comm, Nat.add_assoc]
    refine congrArg _ (congrArg _ (table_congr (fun place _ => ?_)))
    by_cases first : place = line + 1
    · rw [if_neg (by omega), if_pos first, if_pos (by omega), first]
      rfl
    · have same : (line + 1 < place ∧ place ≤ line + (steps + 1)) ↔
          (line < place ∧ place ≤ line + (steps + 1)) := by omega
      simp only [first, if_false, same]

theorem markClean_eq {tokens : List Token}
    (positive : ∀ tok ∈ tokens, 1 ≤ tok.span.endLine)
    (sorted : tokens.Pairwise (fun first second => first.span.endLine ≤ second.span.endLine))
    (count : Nat) :
    ∃ flags, markClean ⟨table (count + 1) (fun line => stateAt line .initial tokens),
        table (count + 1) (runsPast tokens)⟩ count 1 .initial (List.replicate (count + 1) false) =
          .ok (LineState.atLine tokens count, flags) ∧
      flags.length = count + 1 ∧ flags.drop 1 = cleanLines tokens count := by
  have start : LineState.atLine tokens 0 = .initial := by
    cases tokens with
    | nil => rfl
    | cons tok rest =>
      have here := positive tok (List.mem_cons_self ..)
      rw [LineState.atLine, List.takeWhile_cons_of_neg (by simp; omega)]
      rfl
  have marked := @markClean_table count 0 count tokens (fun _ => false) sorted (by omega)
  rw [start, Nat.zero_add, Nat.zero_add, ← replicate_eq_table] at marked
  refine ⟨_, marked, by simp [table], ?_⟩
  rw [table, List.range_succ_eq_map, List.map_cons, List.drop_one, List.tail_cons, List.map_map,
    cleanLines]
  refine List.map_congr_left (fun before inside => ?_)
  have less := List.mem_range.1 inside
  exact if_pos (by omega)

/-- The chunks from line `start` on, when `passed` of its lines are read and `latest` of them could
make a chunk. -/
def chunksLeft (flags : List Bool) (count limit passed start : Nat) (latest : Option Nat) :
    List ChunkBounds :=
  if start ≤ count then
    let cut := cutAfter limit passed latest (flags.drop (start + passed))
    let size := cut.getD (count + 1 - start)
    ⟨start, start + size - 1, false⟩ ::
      boundsOfSizes false (start + size) (chunkSizes limit 0 (flags.drop (start + size)))
  else []

theorem chunksLeft_eq {flags : List Bool} {count limit start : Nat}
    (length : flags.length = count + 1) :
    chunksLeft flags count limit 0 start none =
      boundsOfSizes false start (chunkSizes limit 0 (flags.drop start)) := by
  rw [chunksLeft]
  split
  · have nonempty : flags.drop start ≠ [] := by
      rw [← List.length_pos_iff, List.length_drop]
      omega
    rw [chunkSizes_eq_cons limit nonempty, boundsOfSizes, List.drop_drop, firstSize,
      List.length_drop, length, Nat.add_zero]
    simp
  · rw [List.drop_of_length_le (by omega)]
    rfl

/-- No cut comes after the last line: what is left is one chunk. -/
theorem chunksLeft_of_lt {flags : List Bool} {count limit passed start : Nat}
    {latest : Option Nat} (length : flags.length = count + 1) (past : count < start + passed) :
    chunksLeft flags count limit passed start latest =
      if start ≤ count then [⟨start, count, false⟩] else [] := by
  rw [chunksLeft]
  split
  · have size : start + (count + 1 - start) = count + 1 := by omega
    rw [List.drop_of_length_le (by omega)]
    simp only [cutAfter, Option.getD_none, size, List.drop_of_length_le (Nat.le_of_eq length)]
    rfl
  · rfl

/-- The number of lines up to the latest clean one, after one more line. -/
def latestSize (clean : Bool) (passed : Nat) (latest : Option Nat) : Option Nat :=
  if clean then some (passed + 1) else latest

section LatestSize

variable {passed start : Nat} {latest : Option Nat}

theorem bounds_of_latestSize (seen : ∀ size, latest = some size → 1 ≤ size ∧ size ≤ passed)
    (clean : Bool) :
    ∀ size, latestSize clean passed latest = some size → 1 ≤ size ∧ size ≤ passed + 1 := by
  intro size eq
  cases clean with
  | true =>
    obtain rfl : passed + 1 = size := Option.some.inj eq
    omega
  | false =>
    have before := seen size eq
    omega

theorem map_latestSize (clean : Bool) :
    (latestSize clean passed latest).map (fun size => start + size - 1) =
      if clean then some (start + passed) else latest.map (fun size => start + size - 1) := by
  cases clean <;> rfl

/-- What one more line shows. -/
theorem chunksLeft_step {flags rest : List Bool} {count limit : Nat} {clean : Bool}
    (inside : start ≤ count) (next : flags.drop (start + passed) = clean :: rest) :
    chunksLeft flags count limit passed start latest =
      match (if limit ≤ passed + 1 then latestSize clean passed latest else none) with
      | some size => ⟨start, start + size - 1, false⟩ ::
          boundsOfSizes false (start + size) (chunkSizes limit 0 (flags.drop (start + size)))
      | none =>
        chunksLeft flags count limit (passed + 1) start (latestSize clean passed latest) := by
  have after : flags.drop (start + (passed + 1)) = rest := by
    rw [← Nat.add_assoc, ← List.drop_drop, next]
    rfl
  rw [chunksLeft, if_pos inside, next, cutAfter, ← latestSize]
  cases latestSize clean passed latest with
  | none => simp [chunksLeft, inside, after]
  | some size => by_cases large : limit ≤ passed + 1 <;> simp [chunksLeft, inside, after, large]

end LatestSize

/-- Greedy search ends in the steps it is given: each step either reads a line further or begins
a chunk further. -/
theorem cutFrom_eq {flags : List Bool} {count limit steps passed start : Nat}
    {latest : Option Nat} {bounds : List ChunkBounds} (length : flags.length = count + 1)
    (seen : ∀ size, latest = some size → 1 ≤ size ∧ size ≤ passed)
    (enough : (count + 1 - start) * (count + 2) + (count + 1 - (start + passed)) ≤ steps) :
    ∃ final found, cutFrom flags count limit steps (start + passed) start
        (latest.map (fun size => start + size - 1)) bounds = .ok (final, found) ∧
      found ++ (if final ≤ count then [⟨final, count, false⟩] else []) =
        bounds ++ chunksLeft flags count limit passed start latest := by
  induction steps generalizing passed start latest bounds with
  | zero =>
    have past : ¬ start + passed ≤ count := by omega
    rw [cutFrom, if_neg past]
    exact ⟨start, bounds, rfl, by rw [chunksLeft_of_lt length (by omega)]⟩
  | succ steps ih =>
    by_cases past : start + passed ≤ count
    · have inside : start + passed < flags.length := by omega
      have next := List.drop_eq_getElem_cons inside
      have here := item_eq_ok (List.getElem?_eq_getElem inside)
      generalize flags[start + passed] = clean at next here
      have known := bounds_of_latestSize seen clean
      rw [cutFrom, if_pos past, here, ok_bind, minus_eq_ok (Nat.le_add_right ..), ok_bind,
        Nat.add_sub_cancel_left, ← map_latestSize,
        chunksLeft_step (Nat.le_trans (Nat.le_add_right ..) past) next]
      generalize latestSize clean passed latest = shown at known
      have further := @ih (passed + 1) start shown bounds known (by omega)
      rw [← Nat.add_assoc] at further
      cases shown with
      | none => simpa using further
      | some size =>
        by_cases large : limit ≤ passed + 1
        · obtain ⟨positive, small⟩ := known size rfl
          -- a chunk further is worth more steps than the lines it goes back
          have shorter : (count + 1 - (start + size) + 1) * (count + 2) ≤
              (count + 1 - start) * (count + 2) := Nat.mul_le_mul_right _ (by omega)
          rw [Nat.add_mul, Nat.one_mul] at shorter
          have cut := @ih 0 (start + size) none (bounds ++ [⟨start, start + size - 1, false⟩])
            (by simp) (by omega)
          have past : start + size - 1 + 1 = start + size := by omega
          simpa [large, past, chunksLeft_eq length] using cut
        · simpa [large] using further
    · rw [cutFrom, if_neg past]
      exact ⟨start, bounds, rfl, by rw [chunksLeft_of_lt length (by omega)]⟩

/-- The last chunk is marked by whether the text ends inside it. -/
theorem boundsOfSizes_openEnd (openEnd : Bool) (first : Nat) (sizes : List Nat) :
    boundsOfSizes openEnd first sizes =
      (boundsOfSizes false first sizes).modifyLast
        (fun last => { last with incomplete := openEnd }) := by
  induction sizes generalizing first with
  | nil => rfl
  | cons size rest ih =>
    cases rest with
    | nil => cases openEnd <;> rfl
    | cons next rest =>
      have more : boundsOfSizes false (first + size) (next :: rest) ≠ [] := List.cons_ne_nil _ _
      rw [boundsOfSizes, ih, ← List.singleton_append,
        ← List.modifyLast_append_of_right_ne_nil _ _ _ more]
      rfl

theorem planChunks_eq {tokens : List Token} (positive : ∀ tok ∈ tokens, 1 ≤ tok.span.endLine)
    (sorted : tokens.Pairwise (fun first second => first.span.endLine ≤ second.span.endLine))
    (count limit : Nat) :
    planChunks tokens count limit = .ok (CSurvey.planChunks tokens count limit) := by
  rw [planChunks, CSurvey.planChunks]
  split
  · rfl
  split
  · rename_i noLines
    rw [noLines]
    rfl
  obtain ⟨flags, marked, length, lines⟩ := markClean_eq positive sorted count
  have steps : (count + 1 - 1) * (count + 2) + (count + 1 - (1 + 0)) ≤
      (count + 1) * (count + 2) := by
    rw [Nat.add_mul, Nat.one_mul, Nat.add_sub_cancel]
    omega
  obtain ⟨final, found, cut, whole⟩ := @cutFrom_eq _ count limit _ 0 1 none [] length
    (by simp) steps
  rw [chunksLeft_eq length, lines, List.nil_append] at whole
  simp only [Nat.add_zero, Option.map_none] at cut
  simp only [recordTokens_eq, marked, cut, ok_bind]
  rw [chunkBounds, boundsOfSizes_openEnd, ← whole, endsOpen]
  split
  · rw [List.modifyLast_concat]
    rfl
  · rw [List.append_nil]
    rfl

end CSurvey.Checked
