/-!
# Sums of counts

Counts are unsigned 64-bit words.  Where the sum of two of them is too large for a
word, the addition fails.  Only counts that are given as numbers can grow so large: how
many things there are in a text or a list that is held, and what they weigh together, is
added up as it is.
-/

namespace CSurvey

-- Sums of counts take their zero from here, so that a sum is the same term whatever algebra of
-- numbers is imported beside it.
instance (priority := high) zeroNumeral : Zero Nat :=
  Zero.ofOfNat0

/-- The number of values of an unsigned 64-bit word. -/
def wordSize : Nat :=
  Nat.pow 2 64

/-- The sum of two counts, unless it is too large for a word. -/
def plus? (first second : Nat) : Option Nat :=
  if first + second < wordSize then some (first + second) else none

/-- Counts added up one after the other, unless one of the sums is too large for a word. -/
def sumWords? (counts : List Nat) : Option Nat :=
  counts.foldlM plus? 0

end CSurvey
