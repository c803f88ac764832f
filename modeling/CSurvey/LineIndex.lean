import CSurvey.Text.Bytes

/-!
# Line index

The byte offsets at which the lines of a text start.  A line ends right after
its line feed, and a line feed at the very end of the text opens no further
line, so every line has at least one byte.
-/

namespace CSurvey

/-- The starts of the lines of a text, in order, and the text's length in bytes. -/
structure LineIndex where
  starts : List Nat
  size : Nat
deriving DecidableEq, Repr

namespace LineIndex

/-- The starts of the lines after the first, when `offset` bytes come before the characters. -/
def laterStarts (offset : Nat) : List Char → List Nat
  | [] => []
  | c :: rest =>
    let next := offset + c.utf8Size
    if c = '\n' && !rest.isEmpty then next :: laterStarts next rest else laterStarts next rest

def ofChars (cs : List Char) : LineIndex where
  starts := if cs.isEmpty then [] else 0 :: laterStarts 0 cs
  size := Text.byteLength cs

def ofText (text : String) : LineIndex :=
  ofChars text.toList

/-- The number of lines. -/
def count (index : LineIndex) : Nat :=
  index.starts.length

/-- The line, counted from 1, whose start is the last one at or before `offset`. -/
def lineOf (index : LineIndex) (offset : Nat) : Nat :=
  max 1 (index.starts.countP (· ≤ offset))

/-- The bytes of a line, its line feed included; the empty range at the end of the text when
there is no such line. -/
def lineRange (index : LineIndex) (line : Nat) : Nat × Nat :=
  match line with
  | 0 => (index.size, index.size)
  | before + 1 =>
    match index.starts[before]? with
    | none => (index.size, index.size)
    | some start => (start, index.starts[before + 1]?.getD index.size)

/-- The bytes of the lines `first` to `last`. -/
def linesRange (index : LineIndex) (first last : Nat) : Nat × Nat :=
  ((index.lineRange first).1, (index.lineRange last).2)

end LineIndex

end CSurvey
