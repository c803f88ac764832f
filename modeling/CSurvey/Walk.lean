/-!
# Walks in directed graphs

A directed graph is given by its edges.  A breadth-first walk goes out from some
roots one step at a time and gives each node that it meets the number of steps
after which it was met first.
-/

namespace CSurvey.Walk

variable {α : Type} [DecidableEq α]

def successors (edges : List (α × α)) (node : α) : List α :=
  (edges.filter (fun edge => edge.1 == node)).map (·.2)

/-- Whether a node has been met. -/
def isMet (met : List (α × Nat)) (node : α) : Bool :=
  met.any (fun entry => entry.1 == node)

/-- The nodes that one step from `frontier` meets for the first time. -/
def newlyMet (edges : List (α × α)) (met : List (α × Nat)) (frontier : List α) : List α :=
  ((frontier.flatMap (successors edges)).filter (fun node => !isMet met node)).eraseDups

/-- Walk on from `frontier`, the nodes met last, all at `level`, for at most `rounds` steps. -/
def rounds (edges : List (α × α)) :
    Nat → Nat → List α → List (α × Nat) → List (α × Nat)
  | 0, _, _, met => met
  | count + 1, level, frontier, met =>
    let next := newlyMet edges met frontier
    if next.isEmpty then met
    else rounds edges count (level + 1) next (met ++ next.map (fun node => (node, level + 1)))

/-- The nodes that a walk from `roots` meets, with their levels.  Every round but the last meets
a node to which an edge leads, so there are at most as many rounds as edges. -/
def levels (edges : List (α × α)) (roots : List α) : List (α × Nat) :=
  let start := roots.eraseDups
  rounds edges edges.length 0 start (start.map (fun node => (node, 0)))

/-- The nodes that a walk from `roots` meets. -/
def reachable (edges : List (α × α)) (roots : List α) : List α :=
  (levels edges roots).map (·.1)

def levelOf? (met : List (α × Nat)) (node : α) : Option Nat :=
  (met.find? (fun entry => entry.1 == node)).map (·.2)

/-- The largest level. -/
def depth (met : List (α × Nat)) : Nat :=
  (met.map (·.2)).foldl max 0

end CSurvey.Walk
