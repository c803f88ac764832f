/-!
# Sets of characters

A set of code points as a list of ranges in increasing order that neither overlap
nor touch.
-/

namespace CSurvey.Pattern

/-- Ranges of code points, both ends included. -/
abbrev CharSet :=
  List (Nat × Nat)

namespace CharSet

/-- The largest code point. -/
def last : Nat :=
  0x10FFFF

/-- Every code point. -/
def all : CharSet :=
  [(0, last)]

def single (c : Char) : CharSet :=
  [(c.toNat, c.toNat)]

/-- Whether a code point lies in one of the ranges, which are in increasing order. -/
def contains : CharSet → Nat → Bool
  | [], _ => false
  | (low, high) :: rest, code =>
    if code < low then false else if code ≤ high then true else contains rest code

/-- Add ranges that begin no earlier than those before them; `done` holds those, latest first. -/
def mergeInto (done : CharSet) : List (Nat × Nat) → CharSet
  | [] => done.reverse
  | (low, high) :: rest =>
    match done with
    | [] => mergeInto [(low, high)] rest
    | (first, latest) :: earlier =>
      if low ≤ latest + 1 then mergeInto ((first, max latest high) :: earlier) rest
      else mergeInto ((low, high) :: done) rest

/-- The set of the code points of some ranges, in any order. -/
def ofRanges (ranges : List (Nat × Nat)) : CharSet :=
  mergeInto [] (ranges.mergeSort (fun first second => first.1 ≤ second.1))

def union (first second : CharSet) : CharSet :=
  ofRanges (first ++ second)

/-- The code points from `start` on that are in none of the ranges. -/
def gapsFrom (start : Nat) : CharSet → CharSet
  | [] => if start ≤ last then [(start, last)] else []
  | (low, high) :: rest =>
    if start < low then (start, low - 1) :: gapsFrom (high + 1) rest else gapsFrom (high + 1) rest

def complement (set : CharSet) : CharSet :=
  gapsFrom 0 set

def inter (first second : CharSet) : CharSet :=
  complement (union (complement first) (complement second))

def diff (first second : CharSet) : CharSet :=
  inter first (complement second)

/-- The code points in exactly one of two sets. -/
def symmDiff (first second : CharSet) : CharSet :=
  diff (union first second) (inter first second)

/-- Whether all code points are ASCII. -/
def isAscii (set : CharSet) : Bool :=
  List.all set (fun range => range.2 < 0x80)

/-- The ASCII code points of a set. -/
def ascii (set : CharSet) : CharSet :=
  inter set [(0, 0x7F)]

end CharSet

end CSurvey.Pattern
