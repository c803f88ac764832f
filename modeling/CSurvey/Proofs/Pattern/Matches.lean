import CSurvey.Pattern.Parse

/-!
# Matches in a text

Searches need one thing from the patterns they are given: what a pattern matches are
parts of the text, one behind the other.  Pattern programs do so.  A thread keeps the
place at which it began, and a match is found where its thread stands, so a match neither
ends before it begins nor reaches beyond the text.  Then each match cuts the text into
the gap before it, its own characters and the rest.  A text that stands for itself does
so too.
-/

namespace CSurvey

/-- Matches that lie in a text one behind the other, each after its gap. -/
inductive Matched : List Char → List Hit → Prop
  | done (rest : List Char) : Matched rest []
  | hit {rest : List Char} {hits : List Hit} (gap text : List Char) (tail : Matched rest hits) :
      Matched (gap ++ (text ++ rest)) (⟨gap, text⟩ :: hits)

/-- Whatever is compiled matches parts of the text, in order and apart. -/
def PatternCompiler.Ordered (compile : PatternCompiler) : Prop :=
  ∀ pattern compiled, compile pattern = .ok compiled → ∀ cs, Matched cs (compiled.hits cs)

namespace Pattern

namespace Program

variable {program : Program} {before after : Option Char} {bound : Nat} {threads : List Thread}

/-- All threads began within so many characters. -/
def BeganBy (bound : Nat) (threads : List Thread) : Prop :=
  ∀ thread ∈ threads, thread.2 ≤ bound

theorem BeganBy.mono {larger : Nat} (began : BeganBy bound threads) (le : bound ≤ larger) :
    BeganBy larger threads :=
  fun thread member => Nat.le_trans (began thread member) le

theorem BeganBy.follow {fuel place start : Nat} {front : Front} (within : start ≤ bound)
    (began : BeganBy bound front.threads) :
    BeganBy bound (program.follow before after fuel (place, start) front).threads := by
  induction fuel generalizing place front with
  | zero => exact began
  | succ fuel ih =>
    rw [Program.follow]
    split
    · exact began
    dsimp only
    split
    · exact began
    · exact ih began
    · exact ih (ih began)
    · split
      · exact ih began
      · exact began
    · exact List.forall_mem_cons.2 ⟨within, began⟩

theorem BeganBy.advance (began : BeganBy bound threads) :
    BeganBy bound (program.advance before after threads) := by
  have folded (front : Front) (inFront : BeganBy bound front.threads) :
      BeganBy bound (threads.foldl (fun front thread =>
        program.follow before after (program.code.size + 1) thread front) front).threads := by
    induction threads generalizing front with
    | nil => exact inFront
    | cons thread rest ih =>
      obtain ⟨first, began⟩ := List.forall_mem_cons.1 began
      exact ih began _ (BeganBy.follow first inFront)
  have all : BeganBy bound (threads.foldl (fun front thread =>
      program.follow before after (program.code.size + 1) thread front)
        ⟨[], Array.replicate program.code.size false⟩).threads :=
    folded _ (List.forall_mem_nil (fun thread : Thread => thread.2 ≤ bound))
  exact fun thread member => all thread (List.mem_reverse.1 member)

theorem BeganBy.taking (c : Char) (began : BeganBy bound threads) :
    BeganBy bound (program.taking c threads) := by
  intro thread member
  obtain ⟨⟨place, start⟩, earlier, moved⟩ := List.mem_filterMap.1 member
  have within := began _ earlier
  dsimp only at moved
  split at moved
  · split at moved
    · obtain rfl := Option.some.inj moved
      exact within
    · cases moved
  · cases moved

/-- A match that may have been found ends within so many characters, and not before it begins. -/
def EndsBy (bound : Nat) (found : Option (Nat × Nat)) : Prop :=
  ∀ ends ∈ found, ends.1 ≤ ends.2 ∧ ends.2 ≤ bound

theorem EndsBy.mono {found : Option (Nat × Nat)} {larger : Nat} (ends : EndsBy bound found)
    (le : bound ≤ larger) : EndsBy larger found :=
  fun place isFound => ⟨(ends place isFound).1, Nat.le_trans (ends place isFound).2 le⟩

/-- At one place, threads stand that began there or before, and a match that is found ends there
or before. -/
theorem settle_within {found : Option (Nat × Nat)} {passed : Nat}
    (began : BeganBy passed threads) (ends : EndsBy passed found) :
    BeganBy passed (program.settle found threads passed before after).1 ∧
      EndsBy passed (program.settle found threads passed before after).2 := by
  have all : BeganBy passed (if found.isNone then threads ++ [(0, passed)] else threads) := by
    split
    · intro thread member
      rcases List.mem_append.1 member with earlier | new
      · exact began thread earlier
      · exact Nat.le_of_eq (congrArg Prod.snd (List.mem_singleton.1 new))
    · exact began
  have ready : BeganBy passed (program.advance before after _) := all.advance
  rw [settle]
  generalize program.advance before after _ = standing at ready
  have preferred (test : Thread → Bool) : BeganBy passed (standing.takeWhile test) :=
    fun thread member => ready thread ((List.takeWhile_prefix test).subset member)
  split
  · rename_i place start rest accepting
    have member : (place, start) ∈ standing :=
      (List.drop_suffix _ standing).subset (accepting ▸ List.mem_cons_self ..)
    refine ⟨preferred _, fun ends isFound => ?_⟩
    obtain rfl := Option.some.inj isFound
    exact ⟨ready _ member, Nat.le_refl _⟩
  · exact ⟨preferred _, ends⟩

theorem run_within {found : Option (Nat × Nat)} {passed : Nat} {cs : List Char}
    (began : BeganBy passed threads) (ends : EndsBy passed found) :
    EndsBy (passed + cs.length) (program.run found threads passed before cs) := by
  induction cs generalizing found threads passed before with
  | nil => exact (settle_within began ends).2
  | cons c rest ih =>
    have here : BeganBy passed (program.settle found threads passed before (some c)).1 ∧
        EndsBy passed (program.settle found threads passed before (some c)).2 :=
      settle_within began ends
    obtain ⟨standing, settled⟩ := here
    rw [run]
    dsimp only
    split
    · exact settled.mono (Nat.le_add_right ..)
    · have moved : BeganBy passed (program.taking c
          (program.settle found threads passed before (some c)).1) := .taking c standing
      have later : EndsBy (passed + 1 + rest.length)
          (program.run _ _ (passed + 1) (some c) rest) :=
        ih (moved.mono (Nat.le_add_right passed 1)) (settled.mono (Nat.le_add_right passed 1))
      rwa [Nat.add_assoc, Nat.add_comm 1] at later

/-- A match begins before it ends, and it ends within the text. -/
theorem find?_within {cs : List Char} {start stop : Nat}
    (found : program.find? before cs = some (start, stop)) : start ≤ stop ∧ stop ≤ cs.length := by
  have within : EndsBy (0 + cs.length) (program.run none [] 0 before cs) :=
    run_within (List.forall_mem_nil (fun thread : Thread => thread.2 ≤ 0))
      (fun _ nothing => nomatch nothing)
  rw [Nat.zero_add] at within
  exact within (start, stop) found

theorem matched_hitsFrom (fuel : Nat) (gap cs : List Char) (justEnded : Bool) :
    Matched (gap.reverse ++ cs) (program.hitsFrom fuel gap before justEnded cs) := by
  induction fuel generalizing gap before justEnded cs with
  | zero => exact .done _
  | succ fuel ih =>
    unfold hitsFrom
    split
    · exact .done _
    · rename_i start stop found
      obtain ⟨ordered, -⟩ := find?_within found
      split
      · -- a match without characters right behind the last one is skipped
        cases cs with
        | nil => exact .done _
        | cons c rest =>
          have later : Matched ((c :: gap).reverse ++ rest)
              (program.hitsFrom fuel (c :: gap) (some c) false rest) := ih (c :: gap) rest false
          rwa [List.reverse_cons, List.append_assoc] at later
      · have parts : gap.reverse ++ cs = (gap.reverse ++ cs.take start) ++
            ((cs.take stop).drop start ++ cs.drop stop) := by
          have front : cs.take start = (cs.take stop).take start := by
            rw [List.take_take, Nat.min_eq_left ordered]
          rw [List.append_assoc, ← List.append_assoc (cs.take start), front,
            List.take_append_drop, List.take_append_drop]
        rw [parts]
        exact .hit _ _ (ih [] (cs.drop stop) true)

theorem matched_hits (program : Program) (cs : List Char) : Matched cs (program.hits cs) :=
  matched_hitsFrom _ [] cs false

end Program

theorem ordered_compiler : compiler.Ordered := by
  intro pattern compiled valid cs
  rw [compiler] at valid
  cases isProgram : compile pattern with
  | ok program =>
    rw [isProgram] at valid
    obtain rfl := Except.ok.inj valid
    exact program.matched_hits cs
  | error fault =>
    rw [isProgram] at valid
    cases valid

end Pattern

namespace Matcher

theorem exactHits_skip (word gap passed rest : List Char) :
    exactHits word gap passed.length (passed ++ rest) = exactHits word gap 0 rest := by
  induction passed with
  | nil => rfl
  | cons c passed ih => exact ih

/-- Where the word stands it is taken. -/
theorem exactHits_append {word : List Char} (nonempty : word ≠ []) (gap rest : List Char) :
    exactHits word gap 0 (word ++ rest) = ⟨gap.reverse, word⟩ :: exactHits word [] 0 rest := by
  obtain ⟨d, tail, rfl⟩ := List.exists_cons_of_ne_nil nonempty
  have isPrefix : (d :: tail).isPrefixOf (d :: (tail ++ rest)) = true :=
    List.isPrefixOf_iff_prefix.2 ⟨rest, rfl⟩
  simp only [List.cons_append, exactHits, isPrefix, if_true, List.length_cons,
    Nat.add_sub_cancel, exactHits_skip]

/-- Where it does not, the next character is passed. -/
theorem exactHits_cons {word : List Char} {c : Char} {rest : List Char}
    (other : ¬ word <+: c :: rest) (gap : List Char) :
    exactHits word gap 0 (c :: rest) = exactHits word (c :: gap) 0 rest := by
  rw [exactHits, if_neg (fun isPrefix => other (List.isPrefixOf_iff_prefix.1 isPrefix))]

/-- A text is read as the search for a word reads it: past the word where it stands, and past one
character where it does not. -/
@[elab_as_elim]
theorem search_induction {word : List Char} (nonempty : word ≠ []) {motive : List Char → Prop}
    (done : motive []) (take : ∀ rest, motive rest → motive (word ++ rest))
    (pass : ∀ c rest, ¬ word <+: c :: rest → motive rest → motive (c :: rest)) (cs : List Char) :
    motive cs := by
  match cs with
  | [] => exact done
  | c :: rest =>
    by_cases found : word <+: c :: rest
    · obtain ⟨more, eq⟩ := found
      have shorter : more.length ≤ rest.length := by
        have total := congrArg List.length eq
        have positive := List.length_pos_iff.2 nonempty
        rw [List.length_append, List.length_cons] at total
        omega
      exact eq ▸ take more (search_induction nonempty done take pass more)
    · exact pass c rest found (search_induction nonempty done take pass rest)
termination_by cs.length

theorem matched_exactHits {word : List Char} (nonempty : word ≠ []) (gap cs : List Char) :
    Matched (gap.reverse ++ cs) (exactHits word gap 0 cs) := by
  induction cs using search_induction nonempty generalizing gap with
  | done => exact .done _
  | take rest ih =>
    rw [exactHits_append nonempty]
    exact .hit gap.reverse word (ih [])
  | pass c rest other ih =>
    have later := ih (c :: gap)
    rw [List.reverse_cons, List.append_assoc] at later
    rw [exactHits_cons other]
    exact later

end Matcher

/-- Whatever a valid query looks for, its matches lie in the text one behind the other. -/
theorem SearchQuery.matched_hits {compile : PatternCompiler} (ordered : compile.Ordered)
    {query : SearchQuery} {matcher : Matcher} (valid : query.matcher compile = .ok matcher)
    (cs : List Char) : Matched cs (matcher.hits cs) := by
  rw [SearchQuery.matcher] at valid
  split at valid
  · obtain rfl := Except.ok.inj valid
    exact .done cs
  rename_i notEmpty
  split at valid
  · obtain rfl := Except.ok.inj valid
    have nonempty : query.pattern.toList ≠ [] := by
      rw [ne_eq, String.toList_eq_nil_iff, ← String.isEmpty_iff]
      exact notEmpty
    exact Matcher.matched_exactHits nonempty [] cs
  split at valid
  · rename_i pattern compiled
    obtain rfl := Except.ok.inj valid
    exact ordered query.pattern pattern compiled cs
  · cases valid

end CSurvey
