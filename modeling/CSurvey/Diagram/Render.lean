import CSurvey.Diagram.Basic
import CSurvey.NameHints

/-!
# Choosing what a diagram shows

The nodes with most neighbours are shown, ties broken by the order of the nodes.
Edges between two names are summed first.  Edges that touch a node that is not
shown are added to the aggregate, so that no count is lost.
-/

namespace CSurvey

namespace Diagram

/-- An edge between two names with the sum of its counts. -/
abbrev Pair :=
  (String × String) × Nat

/-- All names of a graph: the declared ones, then those that only edges mention, each once. -/
def namesOf (input : GraphInput) : List String :=
  (input.nodes ++ input.edges.flatMap (fun edge => [edge.source, edge.target])).eraseDups

/-- Add a count to the pair with the given names, or append such a pair. -/
def addPair (key : String × String) (count : Nat) : List Pair → List Pair
  | [] => [(key, count)]
  | pair :: rest =>
    if pair.1 == key then (key, pair.2 + count) :: rest
    else pair :: addPair key count rest

/-- The pairs of names that edges join, in the order of their first edges, with summed counts. -/
def pairsOf (edges : List InputEdge) : List Pair :=
  edges.foldl (fun pairs edge => addPair (edge.source, edge.target) edge.count pairs) []

/-- The number of pairs that join a name to another name. -/
def degreeOf (pairs : List Pair) (name : String) : Nat :=
  pairs.countP (fun pair => pair.1.1 == name && pair.1.2 != name) +
    pairs.countP (fun pair => pair.1.2 == name && pair.1.1 != name)

/-- The names in the order in which they are shown. -/
def rank (pairs : List Pair) (names : List String) : List String :=
  (Sorted.sort (fun (first second : String × Nat) => second.2 ≤ first.2)
    (names.map (fun name => (name, degreeOf pairs name)))).map (·.1)

/-- An identifier that is not used yet: `base`, or else `base` with the least number from 2 on that
makes it new.  One of `used.length + 1` numbers does. -/
def freshId (used : List String) (base : String) : String :=
  if used.contains base then
    (((List.range (used.length + 1)).map (fun number => s!"{base}_{number + 2}")).find?
      (fun candidate => !used.contains candidate)).getD base
  else base

/-- Give each name an identifier that none before it has. -/
def assignIds (used : List String) : List String → List (String × String)
  | [] => []
  | name :: rest =>
    let id := freshId used (NameHints.diagramId name)
    (name, id) :: assignIds (id :: used) rest

/-- The identifier given to a name. -/
def idIn (ids : List (String × String)) (name : String) : String :=
  ((ids.find? (fun entry => entry.1 == name)).map (·.2)).getD name

/-- The steps between different names that are shown. -/
def keptSteps (kept : List String) (pairs : List Pair) : List (String × String) :=
  (pairs.filter (fun pair =>
    pair.1.1 != pair.1.2 && kept.contains pair.1.1 && kept.contains pair.1.2)).map (·.1)

def fillLevels (steps : List (String × String)) :
    List String → List (String × Nat) → List (String × Nat)
  | [], met => met
  | name :: rest, met =>
    if Walk.isMet met name then fillLevels steps rest met
    else
      let more := (Walk.levels steps [name]).filter (fun entry => !Walk.isMet met entry.1)
      fillLevels steps rest (met ++ more)

/-- The level of each name shown: walks start together at the names without callers, and then one
by one, in the order of rank, at names that only cycles reach. -/
def levelsOf (kept : List String) (pairs : List Pair) : List (String × Nat) :=
  let steps := keptSteps kept pairs
  let roots := kept.filter (fun name => !steps.any (fun step => step.2 == name))
  fillLevels steps kept (Walk.levels steps roots)

/-- What is not shown of some pairs. -/
def aggregate (names kept : List String) (pairs : List Pair) : ExternalAggregate :=
  let isKept (name : String) := kept.contains name
  { dropped := names.filter (fun name => !isKept name)
    inbound := Tally.ofPairs
      ((pairs.filter (fun pair => !isKept pair.1.1 && isKept pair.1.2)).map
        (fun pair => (pair.1.2, pair.2)))
    outbound := Tally.ofPairs
      ((pairs.filter (fun pair => isKept pair.1.1 && !isKept pair.1.2)).map
        (fun pair => (pair.1.1, pair.2)))
    internal := ((pairs.filter (fun pair => !isKept pair.1.1 && !isKept pair.1.2)).map
      (·.2)).sum }

/-- The diagram of a graph with at most `maxNodes` nodes.  Its counts are exact, also where they are
too large for words. -/
def draw (input : GraphInput) (kind : ChartKind) (maxNodes : Nat) : Diagram :=
  let names := namesOf input
  let pairs := pairsOf input.edges
  let kept := (rank pairs names).take maxNodes
  let ids := assignIds [] kept
  let levels := levelsOf kept pairs
  { kind
    nodes := kept.map (fun name =>
      { id := idIn ids name
        label := name
        degree := degreeOf pairs name
        level := (Walk.levelOf? levels name).getD 0
        group := if name == externalName then "external" else NameHints.group name })
    edges := (pairs.filter (fun pair => kept.contains pair.1.1 && kept.contains pair.1.2)).map
      (fun pair => ⟨idIn ids pair.1.1, idIn ids pair.1.2, pair.2⟩)
    external := aggregate names kept pairs
    totalNodes := names.length
    truncated := maxNodes < names.length }

/-- The diagram whose counts have been added up, unless one of them is too large for a word: the
addition that leads to it fails. -/
def checked (diagram : Diagram) : Except Fault Diagram :=
  if diagram.counts.all (· < wordSize) then .ok diagram else .error .overflow

/-- The diagram of a graph, for a bound of at least one node. -/
def render (input : GraphInput) (kind : ChartKind) (maxNodes : Nat) : Except Fault Diagram :=
  if maxNodes = 0 then .error (.argument .zeroMaxNodes) else (draw input kind maxNodes).checked

end Diagram

end CSurvey
