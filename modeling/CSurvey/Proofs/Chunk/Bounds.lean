import CSurvey.Chunk

/-!
# Where chunks end

The bounds that are planned for a text cover its lines in order.  Every chunk
but the last one ends at a clean line: the greedy search only ever returns a
clean line that it has seen.
-/

namespace CSurvey

/-- A cut that the greedy search returns is the latest clean line before these or one of them. -/
theorem eq_or_clean_of_cutAfter {limit passed : Nat} {latest : Option Nat} {flags : List Bool}
    {cut : Nat} (found : cutAfter limit passed latest flags = some cut) :
    latest = some cut ∨ (passed < cut ∧ flags[cut - (passed + 1)]? = some true) := by
  induction flags generalizing passed latest with
  | nil => simp [cutAfter] at found
  | cons clean rest ih =>
    have step : (if clean then some (passed + 1) else latest) = some cut ∨
        (passed + 1 < cut ∧ rest[cut - (passed + 1 + 1)]? = some true) := by
      rw [cutAfter] at found
      generalize (if clean then some (passed + 1) else latest) = seen at found ⊢
      by_cases cuts : (limit ≤ passed + 1 && seen.isSome) = true
      · exact Or.inl (by rwa [if_pos cuts] at found)
      · exact ih (by rwa [if_neg cuts] at found)
    rcases step with here | ⟨later, isClean⟩
    · cases clean with
      | true =>
        obtain rfl : passed + 1 = cut := by simpa using here
        exact Or.inr ⟨Nat.lt_succ_self passed, by simp⟩
      | false => exact Or.inl (by simpa using here)
    · refine Or.inr ⟨by omega, ?_⟩
      obtain ⟨ahead, rfl⟩ := Nat.exists_eq_add_of_le later
      have index : passed + 1 + 1 + ahead - (passed + 1) = ahead + 1 := by omega
      have restIndex : passed + 1 + 1 + ahead - (passed + 1 + 1) = ahead := by omega
      have isClean : rest[ahead]? = some true := by simpa [restIndex] using isClean
      simpa [index] using isClean

theorem endLine_le_of_isCleanLine {tokens : List Token} {line : Nat}
    (clean : isCleanLine tokens line = true) {tok : Token} (member : tok ∈ tokens)
    (begins : tok.span.line ≤ line) : tok.span.endLine ≤ line := by
  simp only [isCleanLine, runsPast, Bool.and_eq_true, Bool.not_eq_true', List.any_eq_false,
    decide_eq_true_eq, not_and, Nat.not_lt] at clean
  exact clean.2 tok member begins

/-- The size of the first of some chunks, the lines of which are clean as `flags` says. -/
def firstSize (limit : Nat) (flags : List Bool) : Nat :=
  (cutAfter limit 0 none flags).getD flags.length

theorem clean_of_cutAfter {limit : Nat} {flags : List Bool} {cut : Nat}
    (found : cutAfter limit 0 none flags = some cut) :
    0 < cut ∧ flags[cut - 1]? = some true := by
  rcases eq_or_clean_of_cutAfter found with absurdity | clean
  · cases absurdity
  · simpa using clean

theorem firstSize_le (limit : Nat) (flags : List Bool) : firstSize limit flags ≤ flags.length := by
  unfold firstSize
  cases found : cutAfter limit 0 none flags with
  | none => exact Nat.le_refl _
  | some cut =>
    have ⟨positive, clean⟩ := clean_of_cutAfter found
    have inside := (List.getElem?_eq_some_iff.1 clean).1
    rw [Option.getD_some]
    omega

theorem firstSize_pos (limit : Nat) {flags : List Bool} (nonempty : flags ≠ []) :
    0 < firstSize limit flags := by
  unfold firstSize
  cases found : cutAfter limit 0 none flags with
  | none => exact List.length_pos_iff.2 nonempty
  | some cut => exact (clean_of_cutAfter found).1

/-- A first chunk that leaves lines to others ends at a clean line. -/
theorem clean_of_firstSize_lt {limit : Nat} {flags : List Bool}
    (less : firstSize limit flags < flags.length) :
    flags[firstSize limit flags - 1]? = some true := by
  unfold firstSize at less ⊢
  cases found : cutAfter limit 0 none flags with
  | none => simp [found] at less
  | some cut => exact (clean_of_cutAfter found).2

/-- With a limit of one line no line before the end of the first chunk is clean. -/
theorem unclean_of_lt_cutAfter {passed index : Nat} {flags : List Bool}
    (before : passed + index + 1 < (cutAfter 1 passed none flags).getD (passed + flags.length)) :
    flags[index]? = some false := by
  induction flags generalizing passed index with
  | nil =>
    simp only [cutAfter, Option.getD_none, List.length_nil] at before
    omega
  | cons clean rest ih =>
    cases clean with
    | true =>
      have cut : cutAfter 1 passed none (true :: rest) = some (passed + 1) := by simp [cutAfter]
      rw [cut, Option.getD_some] at before
      omega
    | false =>
      have next : cutAfter 1 passed none (false :: rest) = cutAfter 1 (passed + 1) none rest := by
        simp [cutAfter]
      cases index with
      | zero => rfl
      | succ index =>
        have total : passed + (false :: rest).length = passed + 1 + rest.length := by
          rw [List.length_cons]
          omega
        rw [next, total, ← Nat.add_assoc, Nat.add_right_comm passed index 1] at before
        exact ih before

/-- A limit beyond the last line is never reached. -/
theorem cutAfter_eq_none {limit passed : Nat} {latest : Option Nat} {flags : List Bool}
    (less : passed + flags.length < limit) : cutAfter limit passed latest flags = none := by
  induction flags generalizing passed latest with
  | nil => rfl
  | cons clean rest ih =>
    rw [List.length_cons] at less
    have notYet : ¬ limit ≤ passed + 1 := by omega
    simp only [cutAfter, notYet, decide_false, Bool.false_and, Bool.false_eq_true, if_false]
    exact ih (by omega)

theorem chunkSizes_drop (limit skip : Nat) (flags : List Bool) :
    chunkSizes limit skip flags = chunkSizes limit 0 (flags.drop skip) := by
  induction flags generalizing skip with
  | nil => simp [chunkSizes]
  | cons clean rest ih =>
    cases skip with
    | zero => rfl
    | succ skip => simpa only [chunkSizes, List.drop_succ_cons] using ih skip

theorem chunkSizes_eq_cons (limit : Nat) {flags : List Bool} (nonempty : flags ≠ []) :
    chunkSizes limit 0 flags =
      firstSize limit flags :: chunkSizes limit 0 (flags.drop (firstSize limit flags)) := by
  cases flags with
  | nil => contradiction
  | cons clean rest =>
    have positive := firstSize_pos limit nonempty
    obtain ⟨before, eq⟩ := Nat.exists_eq_add_of_le' positive
    have size : (cutAfter limit 0 none (clean :: rest)).getD (rest.length + 1) = before + 1 := eq
    simp only [chunkSizes, size]
    rw [eq, chunkSizes_drop, Nat.add_sub_cancel, List.drop_succ_cons]

namespace ChunkBounds

def Cover (mayEnd : Nat → Prop) (count : Nat) : Nat → List ChunkBounds → Prop
  | first, [] => first = count + 1
  | first, bounds :: rest =>
    bounds.first = first ∧ first ≤ bounds.last ∧ bounds.last ≤ count ∧
      (rest ≠ [] → mayEnd bounds.last) ∧ Cover mayEnd count (bounds.last + 1) rest

theorem cover_boundsOfSizes {mayEnd : Nat → Prop} (openEnd : Bool) (limit : Nat) {first : Nat}
    {flags : List Bool} {count : Nat} (total : first + flags.length = count + 1)
    (clean : ∀ index : Nat, flags[index]? = some true → mayEnd (first + index)) :
    Cover mayEnd count first (boundsOfSizes openEnd first (chunkSizes limit 0 flags)) := by
  by_cases empty : flags = []
  · subst empty
    simpa [chunkSizes, boundsOfSizes, Cover] using total
  have positive := firstSize_pos limit empty
  have bounded := firstSize_le limit flags
  have shorter : flags.length - firstSize limit flags < flags.length := by omega
  rw [chunkSizes_eq_cons limit empty, boundsOfSizes]
  have next : first + firstSize limit flags - 1 + 1 = first + firstSize limit flags := by omega
  refine ⟨rfl, by dsimp only; omega, by dsimp only; omega, fun others => ?_, ?_⟩
  · have less : firstSize limit flags < flags.length := by
      refine Nat.lt_of_le_of_ne bounded (fun same => others ?_)
      rw [List.drop_of_length_le (by omega)]
      rfl
    have ends := clean _ (clean_of_firstSize_lt less)
    rwa [← Nat.add_sub_assoc positive] at ends
  · dsimp only
    rw [next]
    refine cover_boundsOfSizes openEnd limit (by rw [List.length_drop]; omega) ?_
    intro index isClean
    rw [List.getElem?_drop] at isClean
    have ends := clean _ isClean
    rwa [← Nat.add_assoc] at ends
termination_by flags.length
decreasing_by
  rw [List.length_drop]
  exact shorter

/-- The planned bounds cover all lines, and only clean lines separate them. -/
theorem cover_chunkBounds (tokens : List Token) (count limit : Nat) :
    Cover (fun line => isCleanLine tokens line = true) count 1
      (chunkBounds tokens count limit) := by
  refine cover_boundsOfSizes _ limit (by simp [cleanLines, Nat.add_comm]) ?_
  intro index isClean
  simp only [cleanLines, List.getElem?_map, Option.map_eq_some_iff] at isClean
  obtain ⟨line, found, clean⟩ := isClean
  obtain ⟨inside, index_eq⟩ := List.getElem?_eq_some_iff.1 found
  rw [List.getElem_range] at index_eq
  rw [index_eq, Nat.add_comm 1 line]
  exact clean

theorem unclean_of_mem_boundsOfSizes {openEnd : Bool} {first : Nat} {flags : List Bool}
    {bounds : ChunkBounds} (member : bounds ∈ boundsOfSizes openEnd first (chunkSizes 1 0 flags))
    {line : Nat} (lower : bounds.first ≤ line) (upper : line < bounds.last) :
    first ≤ line ∧ flags[line - first]? = some false := by
  by_cases empty : flags = []
  · subst empty
    simp [chunkSizes, boundsOfSizes] at member
  have positive := firstSize_pos 1 empty
  have shorter : flags.length - firstSize 1 flags < flags.length := by
    have bounded := firstSize_le 1 flags
    omega
  rw [chunkSizes_eq_cons 1 empty, boundsOfSizes] at member
  rcases List.mem_cons.1 member with rfl | later
  · dsimp only at lower upper
    have size : (cutAfter 1 0 none flags).getD flags.length = firstSize 1 flags := rfl
    have less : 0 + (line - first) + 1 < (cutAfter 1 0 none flags).getD (0 + flags.length) := by
      rw [Nat.zero_add, Nat.zero_add, size]
      omega
    exact ⟨lower, unclean_of_lt_cutAfter less⟩
  · have ⟨further, unclean⟩ := unclean_of_mem_boundsOfSizes later lower upper
    rw [List.getElem?_drop] at unclean
    have index : firstSize 1 flags + (line - (first + firstSize 1 flags)) = line - first := by
      omega
    exact ⟨by omega, index ▸ unclean⟩
termination_by flags.length
decreasing_by
  rw [List.length_drop]
  exact shorter

theorem isCleanLine_of_mem_chunkBounds {tokens : List Token} {count : Nat} {bounds : ChunkBounds}
    (member : bounds ∈ chunkBounds tokens count 1) {line : Nat} (lower : bounds.first ≤ line)
    (upper : line < bounds.last) : isCleanLine tokens line = false := by
  obtain ⟨positive, unclean⟩ := unclean_of_mem_boundsOfSizes member lower upper
  simp only [cleanLines, List.getElem?_map, Option.map_eq_some_iff] at unclean
  obtain ⟨before, found, unclean⟩ := unclean
  obtain ⟨inside, index⟩ := List.getElem?_eq_some_iff.1 found
  rw [List.getElem_range] at index
  have same : before + 1 = line := by omega
  rwa [same] at unclean

/-- A limit beyond the last line leaves one chunk. -/
theorem chunkBounds_of_lt {tokens : List Token} {count limit : Nat} (positive : 1 ≤ count)
    (less : count < limit) : ∃ incomplete, chunkBounds tokens count limit =
      [⟨1, count, incomplete⟩] := by
  have length : (cleanLines tokens count).length = count := by simp [cleanLines]
  have nonempty : cleanLines tokens count ≠ [] := by
    rw [← List.length_pos_iff, length]
    exact positive
  have size : firstSize limit (cleanLines tokens count) = count := by
    rw [firstSize, cutAfter_eq_none (by omega), Option.getD_none, length]
  refine ⟨endsOpen tokens count, ?_⟩
  rw [chunkBounds, chunkSizes_eq_cons limit nonempty, size,
    List.drop_of_length_le (Nat.le_of_eq length), chunkSizes, boundsOfSizes, boundsOfSizes,
    Nat.add_sub_cancel_left]
  rfl

variable {mayEnd : Nat → Prop} {count first : Nat} {all : List ChunkBounds}

theorem Cover.eq_nil_iff (cover : Cover mayEnd count first all) :
    all = [] ↔ first = count + 1 := by
  cases all with
  | nil => simpa [Cover] using cover
  | cons bounds rest =>
    obtain ⟨-, lower, upper, -, -⟩ := cover
    simp only [reduceCtorEq, false_iff]
    omega

/-- The bounds at one place: the first ones begin at the first line, the last ones end at the
last line, and the next ones begin right after these, which end where a chunk may end. -/
theorem Cover.getElem? (cover : Cover mayEnd count first all) {index : Nat}
    {bounds : ChunkBounds} (here : all[index]? = some bounds) :
    first ≤ bounds.first ∧ bounds.first ≤ bounds.last ∧ bounds.last ≤ count ∧
      (index = 0 → bounds.first = first) ∧
      (index + 1 = all.length → bounds.last = count) ∧
      (∀ next, all[index + 1]? = some next →
        next.first = bounds.last + 1 ∧ mayEnd bounds.last) := by
  induction all generalizing first index with
  | nil => simp at here
  | cons head rest ih =>
    obtain ⟨headFirst, lower, upper, ends, tail⟩ := cover
    cases index with
    | zero =>
      obtain rfl : head = bounds := by simpa using here
      refine ⟨by omega, by omega, upper, fun _ => headFirst, fun single => ?_, fun next there => ?_⟩
      · have : rest = [] := List.eq_nil_of_length_eq_zero (by simpa using single.symm)
        subst this
        simp only [Cover] at tail
        omega
      · rw [List.getElem?_cons_succ] at there
        cases rest with
        | nil => simp at there
        | cons second rest =>
          obtain rfl : second = next := by simpa using there
          exact ⟨tail.1, ends (by simp)⟩
    | succ index =>
      rw [List.getElem?_cons_succ] at here
      obtain ⟨atLeast, ordered, bounded, -, final, following⟩ := ih tail here
      refine ⟨by omega, ordered, bounded, by simp, fun total => ?_, fun next there => ?_⟩
      · exact final (by simpa using total)
      · exact following next (by simpa using there)

/-- Each of the bounds has a line of its own. -/
theorem Cover.index_le (cover : Cover mayEnd count first all) {index : Nat}
    {bounds : ChunkBounds} (here : all[index]? = some bounds) : first + index ≤ bounds.last := by
  induction all generalizing first index with
  | nil => simp at here
  | cons head rest ih =>
    obtain ⟨-, lower, -, -, tail⟩ := cover
    cases index with
    | zero =>
      obtain rfl : head = bounds := by simpa using here
      exact lower
    | succ index =>
      have further := ih tail here
      omega

theorem Cover.length_eq (cover : Cover mayEnd count first all) {index : Nat}
    {bounds : ChunkBounds} (here : all[index]? = some bounds) (finished : bounds.last = count) :
    index + 1 = all.length := by
  obtain ⟨-, -, -, -, -, following⟩ := cover.getElem? here
  have inside := (List.getElem?_eq_some_iff.1 here).1
  rcases Nat.lt_or_ge (index + 1) all.length with more | last
  · have there := List.getElem?_eq_getElem more
    have next := (following _ there).1
    have ⟨_, ordered, bounded, _⟩ := cover.getElem? there
    omega
  · omega

theorem Cover.ends (cover : Cover mayEnd count first all) {bounds : ChunkBounds}
    (member : bounds ∈ all) : bounds.last = count ∨ mayEnd bounds.last := by
  induction all generalizing first with
  | nil => simp at member
  | cons head rest ih =>
    obtain ⟨-, -, -, ends, tail⟩ := cover
    rcases List.mem_cons.1 member with rfl | later
    · by_cases alone : rest = []
      · subst alone
        simp only [Cover] at tail
        exact Or.inl (by omega)
      · exact Or.inr (ends alone)
    · exact ih tail later

theorem Cover.begins (cover : Cover mayEnd count first all) {bounds : ChunkBounds}
    (member : bounds ∈ all) :
    bounds.first = first ∨ first < bounds.first ∧ mayEnd (bounds.first - 1) := by
  induction all generalizing first with
  | nil => simp at member
  | cons head rest ih =>
    obtain ⟨isFirst, lower, -, ends, tail⟩ := cover
    rcases List.mem_cons.1 member with rfl | later
    · exact Or.inl isFirst
    · refine Or.inr ?_
      rcases ih tail later with next | ⟨further, mayBegin⟩
      · rw [next, Nat.add_sub_cancel]
        exact ⟨by omega, ends (List.ne_nil_of_mem later)⟩
      · exact ⟨by omega, mayBegin⟩

theorem Cover.pairwise (cover : Cover mayEnd count first all) :
    all.Pairwise (fun earlier later => earlier.last < later.first) := by
  induction all generalizing first with
  | nil => exact .nil
  | cons head rest ih =>
    obtain ⟨-, -, -, -, tail⟩ := cover
    refine List.pairwise_cons.2 ⟨fun later member => ?_, ih tail⟩
    obtain ⟨index, here⟩ := List.mem_iff_getElem?.1 member
    have := (tail.getElem? here).1
    omega

theorem Cover.exists_mem (cover : Cover mayEnd count first all) {line : Nat}
    (lower : first ≤ line) (upper : line ≤ count) :
    ∃ bounds ∈ all, bounds.first ≤ line ∧ line ≤ bounds.last := by
  induction all generalizing first with
  | nil =>
    simp only [Cover] at cover
    omega
  | cons head rest ih =>
    obtain ⟨headFirst, -, -, -, tail⟩ := cover
    by_cases inHead : line ≤ head.last
    · exact ⟨head, List.mem_cons_self .., by omega, inHead⟩
    · obtain ⟨bounds, member, found⟩ := ih tail (by omega)
      exact ⟨bounds, List.mem_cons_of_mem _ member, found⟩

end ChunkBounds

end CSurvey
