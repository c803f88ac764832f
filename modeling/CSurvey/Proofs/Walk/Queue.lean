import CSurvey.Proofs.Walk.Reach

/-!
# Walks with a queue

A walk can also take one node at a time from a queue, and put the nodes that it meets
for the first time at the end.  The queue then holds the rest of one round and in
front of the next round what has been met of that so far, so all comes out in the
same order and with the same levels.
-/

namespace CSurvey.Walk

variable {α : Type} [DecidableEq α] {edges : List (α × α)} {met queue : List (α × Nat)}
  {frontier : List α} {level : Nat}

/-- The waiting nodes and all that are met, after a node was come across: it waits if it is new. -/
def meet (level : Nat) (state : List (α × Nat) × List (α × Nat)) (node : α) :
    List (α × Nat) × List (α × Nat) :=
  if isMet state.2 node then state else (state.1 ++ [(node, level)], state.2 ++ [(node, level)])

/-- The nodes of a list that are not met yet, each once. -/
def unmet (met : List (α × Nat)) (nodes : List α) : List α :=
  (nodes.filter (fun node => !isMet met node)).eraseDups

theorem isMet_concat {node other : α} :
    isMet (met ++ [(node, level)]) other = (isMet met other || other == node) := by
  rw [isMet, List.any_append, isMet, List.any_cons, List.any_nil, Bool.or_false, BEq.comm]

theorem unmet_cons (node : α) (nodes : List α) (level : Nat) :
    unmet met (node :: nodes) =
      if isMet met node then unmet met nodes
      else node :: unmet (met ++ [(node, level)]) nodes := by
  rw [unmet, List.filter_cons]
  cases old : isMet met node with
  | true => rfl
  | false =>
    rw [Bool.not_false, if_pos rfl, if_neg Bool.false_ne_true, List.eraseDups_cons,
      List.filter_filter, unmet]
    congr 3
    funext other
    rw [isMet_concat, Bool.not_or, Bool.and_comm]

/-- All that a list of nodes brings goes to the end. -/
theorem foldl_meet (level : Nat) (queue met : List (α × Nat)) (nodes : List α) :
    nodes.foldl (meet level) (queue, met) =
      (queue ++ (unmet met nodes).map (fun node => (node, level)),
        met ++ (unmet met nodes).map (fun node => (node, level))) := by
  induction nodes generalizing queue met with
  | nil => simp [unmet]
  | cons node rest ih =>
    rw [List.foldl_cons, meet, unmet_cons node rest level]
    split
    · exact ih queue met
    · rw [ih, List.map_cons, List.append_assoc, List.append_assoc]
      rfl

theorem newlyMet_eq (edges : List (α × α)) (met : List (α × Nat)) (frontier : List α) :
    newlyMet edges met frontier = unmet met (frontier.flatMap (successors edges)) :=
  rfl

/-- Either a node brings nothing new, or fewer edges lead ahead after it. -/
theorem visit_decreases (edges : List (α × α)) (node : α) (level : Nat)
    (queue met : List (α × Nat)) :
    Prod.Lex (· < ·) (· < ·)
      ((ahead edges ((successors edges node).foldl (meet (level + 1)) (queue, met)).2).length,
        ((successors edges node).foldl (meet (level + 1)) (queue, met)).1.length)
      ((ahead edges met).length, queue.length + 1) := by
  have brought : unmet met (successors edges node) = newlyMet edges met [node] := by
    rw [newlyMet_eq, List.flatMap_singleton]
  rw [foldl_meet, brought]
  cases new : newlyMet edges met [node] with
  | nil =>
    rw [List.map_nil, List.append_nil, List.append_nil]
    exact .right _ (Nat.lt_succ_self _)
  | cons first rest =>
    refine .left _ _ ?_
    rw [← new]
    exact length_ahead_lt (level + 1) (new ▸ List.mem_cons_self ..)

/-- Walk on until no node waits. -/
def visit (edges : List (α × α)) : List (α × Nat) → List (α × Nat) → List (α × Nat)
  | [], met => met
  | (node, level) :: queue, met =>
    let state := (successors edges node).foldl (meet (level + 1)) (queue, met)
    visit edges state.1 state.2
termination_by queue met => ((ahead edges met).length, queue.length)
decreasing_by exact visit_decreases edges node level queue met

def visitFrom (edges : List (α × α)) (roots : List α) : List (α × Nat) :=
  let start := roots.foldl (meet 0) ([], [])
  visit edges start.1 start.2

theorem visit_cons (node : α) :
    visit edges ((node, level) :: queue) met =
      visit edges (queue ++ (newlyMet edges met [node]).map (fun next => (next, level + 1)))
        (met ++ (newlyMet edges met [node]).map (fun next => (next, level + 1))) := by
  rw [visit, foldl_meet, newlyMet_eq, List.flatMap_singleton]

theorem unmet_append (front back : List α) (level : Nat) :
    unmet met (front ++ back) =
      unmet met front ++ unmet (met ++ (unmet met front).map (fun node => (node, level))) back := by
  induction front generalizing met with
  | nil => simp [unmet]
  | cons node rest ih =>
    rw [List.cons_append, unmet_cons node _ level, unmet_cons node _ level]
    split
    · exact ih
    · rw [ih, List.map_cons, List.cons_append, List.append_assoc, List.singleton_append]

/-- Once all nodes of a round have been taken from the queue, the next round waits there. -/
theorem visit_round (edges : List (α × α)) (met : List (α × Nat)) (frontier later : List α)
    (level : Nat) :
    visit edges (frontier.map (fun node => (node, level)) ++
        later.map (fun node => (node, level + 1))) met =
      visit edges ((later ++ newlyMet edges met frontier).map (fun node => (node, level + 1)))
        (met ++ (newlyMet edges met frontier).map (fun node => (node, level + 1))) := by
  induction frontier generalizing later met with
  | nil => simp [newlyMet_eq, unmet]
  | cons node rest ih =>
    have split : newlyMet edges met (node :: rest) =
        newlyMet edges met [node] ++ newlyMet edges
          (met ++ (newlyMet edges met [node]).map (fun next => (next, level + 1))) rest := by
      rw [newlyMet_eq, List.flatMap_cons, unmet_append _ _ (level + 1), newlyMet_eq, newlyMet_eq,
        List.flatMap_singleton]
    rw [List.map_cons, List.cons_append, visit_cons, List.append_assoc, ← List.map_append, ih,
      split]
    simp only [List.map_append, List.append_assoc]

theorem visit_frontier :
    visit edges (frontier.map (fun node => (node, level))) met =
      visit edges ((newlyMet edges met frontier).map (fun node => (node, level + 1)))
        (met ++ (newlyMet edges met frontier).map (fun node => (node, level + 1))) := by
  have round := visit_round edges met frontier [] level
  rwa [List.map_nil, List.append_nil, List.nil_append] at round

theorem visit_eq_rounds {count : Nat} (enough : (ahead edges met).length ≤ count) :
    visit edges (frontier.map (fun node => (node, level))) met =
      rounds edges count level frontier met := by
  induction count generalizing level frontier met with
  | zero =>
    have nothing : newlyMet edges met frontier = [] := by
      rw [List.eq_nil_iff_forall_not_mem]
      intro node new
      have fewer := length_ahead_lt (level + 1) new
      omega
    rw [visit_frontier, nothing, List.map_nil, List.append_nil, visit, rounds]
  | succ count ih =>
    rw [visit_frontier, rounds]
    split
    · rename_i finished
      rw [List.isEmpty_iff.1 finished, List.map_nil, List.append_nil, visit]
    · rename_i more
      rw [List.isEmpty_iff] at more
      obtain ⟨node, new⟩ := List.exists_mem_of_ne_nil _ more
      have fewer := length_ahead_lt (level + 1) new
      exact ih (by omega)

/-- A walk with a queue meets the same nodes in the same order and with the same levels. -/
theorem visitFrom_eq_levels (edges : List (α × α)) (roots : List α) :
    visitFrom edges roots = levels edges roots := by
  have fresh : unmet ([] : List (α × Nat)) roots = roots.eraseDups := by
    rw [unmet]
    exact congrArg List.eraseDups (List.filter_eq_self.2 (fun _ _ => rfl))
  rw [visitFrom, foldl_meet, fresh, List.nil_append, levels]
  exact visit_eq_rounds (List.length_filter_le ..)

end CSurvey.Walk
