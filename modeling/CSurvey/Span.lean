/-!
# Spans

A span is a half-open range of byte offsets together with the range of lines it
touches.  Tokens, functions, findings and search hits all carry one.
-/

namespace CSurvey

/-- The bytes from `start` up to `stop`, which lie on the lines `line` to `endLine`. -/
structure Span where
  start : Nat
  stop : Nat
  line : Nat
  endLine : Nat
deriving DecidableEq, Repr, Inhabited

namespace Span

/-- The empty span before any text. -/
def zero : Span :=
  ⟨0, 0, 0, 0⟩

/-- The smallest span that covers both. -/
def join (first second : Span) : Span :=
  ⟨min first.start second.start, max first.stop second.stop,
    min first.line second.line, max first.endLine second.endLine⟩

/-- The length in bytes; there is none if the span ends before it begins. -/
def length? (span : Span) : Option Nat :=
  if span.start ≤ span.stop then some (span.stop - span.start) else none

/-- Whether no byte is covered. -/
def isEmpty (span : Span) : Bool :=
  span.start == span.stop

/-- Whether `span` lies inside `outer`. -/
def within (span outer : Span) : Bool :=
  outer.start ≤ span.start && span.stop ≤ outer.stop

end Span

end CSurvey
