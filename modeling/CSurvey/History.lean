/-!
# History

A bounded log of operations.  When it is full, the oldest entry makes room for a
new one.
-/

namespace CSurvey

/-- An operation and what came of it. -/
structure HistoryEntry where
  /-- The time at which it was recorded, as it is written. -/
  timestamp : String
  operation : String
  summary : String
deriving DecidableEq, Repr

/-- The latest entries, oldest first, and how many are kept at most. -/
structure History where
  capacity : Nat
  entries : List HistoryEntry
deriving DecidableEq, Repr

namespace History

/-- The number of entries kept when none is set. -/
def standardCapacity : Nat :=
  50

/-- An empty history that keeps at least one entry.  Room for all entries is not set aside, so this
succeeds for capacities that no memory has room for, too. -/
def empty (capacity : Nat) : History :=
  ⟨max 1 capacity, []⟩

def lastOf {α : Type} (count : Nat) (items : List α) : List α :=
  items.drop (items.length - count)

/-- Append an entry. -/
def push (history : History) (entry : HistoryEntry) : History :=
  { history with entries := lastOf history.capacity (history.entries ++ [entry]) }

/-- Append an entry made at a time of an operation and its summary. -/
def record (history : History) (time operation summary : String) : History :=
  history.push ⟨time, operation, summary⟩

/-- The latest `count` entries, oldest first. -/
def recent (history : History) (count : Nat) : List HistoryEntry :=
  lastOf count history.entries

def size (history : History) : Nat :=
  history.entries.length

def isEmpty (history : History) : Bool :=
  history.entries.isEmpty

/-- The same history without entries. -/
def clear (history : History) : History :=
  { history with entries := [] }

theorem length_lastOf {α : Type} (count : Nat) (items : List α) :
    (lastOf count items).length = min count items.length := by
  simp only [lastOf, List.length_drop]
  omega

end History

end CSurvey
