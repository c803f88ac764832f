import CSurvey.Sum

/-!
# Byte offsets into text

Positions in a text are counted in bytes of its UTF-8 form.  This file measures
a list of characters in bytes and cuts it at byte offsets.
-/

namespace CSurvey.Text

/-- The number of bytes of the UTF-8 form. -/
def byteLength (cs : List Char) : Nat :=
  (cs.map Char.utf8Size).sum

/-- What is left after the characters that begin before byte `count`. -/
def dropBytes : Nat → List Char → List Char
  | _, [] => []
  | count, c :: rest => if count = 0 then c :: rest else dropBytes (count - c.utf8Size) rest

/-- The characters that begin before byte `count`. -/
def takeBytes : Nat → List Char → List Char
  | _, [] => []
  | count, c :: rest => if count = 0 then [] else c :: takeBytes (count - c.utf8Size) rest

/-- The characters that begin at byte `start` or later and before byte `stop`. -/
def slice (cs : List Char) (start stop : Nat) : List Char :=
  takeBytes (stop - start) (dropBytes start cs)

@[simp]
theorem byteLength_nil : byteLength [] = 0 :=
  rfl

@[simp]
theorem byteLength_cons (c : Char) (cs : List Char) :
    byteLength (c :: cs) = c.utf8Size + byteLength cs := by
  simp [byteLength]

@[simp]
theorem byteLength_append (front back : List Char) :
    byteLength (front ++ back) = byteLength front + byteLength back := by
  simp [byteLength]

@[simp]
theorem dropBytes_zero (cs : List Char) : dropBytes 0 cs = cs := by
  cases cs <;> simp [dropBytes]

@[simp]
theorem takeBytes_zero (cs : List Char) : takeBytes 0 cs = [] := by
  cases cs <;> simp [takeBytes]

theorem dropBytes_append (front back : List Char) :
    dropBytes (byteLength front) (front ++ back) = back := by
  induction front with
  | nil => simp
  | cons c front ih =>
    have positive : c.utf8Size ≠ 0 := by
      have := c.utf8Size_pos
      omega
    simp [dropBytes, positive, ih]

theorem takeBytes_append (front back : List Char) :
    takeBytes (byteLength front) (front ++ back) = front := by
  induction front with
  | nil => simp
  | cons c front ih =>
    have positive : c.utf8Size ≠ 0 := by
      have := c.utf8Size_pos
      omega
    simp [takeBytes, positive, ih]

/-- Cutting at the byte offsets of a middle part gives that part back. -/
theorem slice_middle (front middle back : List Char) :
    slice (front ++ (middle ++ back)) (byteLength front)
      (byteLength front + byteLength middle) = middle := by
  simp [slice, dropBytes_append, takeBytes_append]

end CSurvey.Text
