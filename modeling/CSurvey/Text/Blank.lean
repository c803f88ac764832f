/-!
# Blank characters, words and lines

Text is handled as a list of characters.  This file fixes which characters are
blank (the Unicode property `White_Space`), and defines splitting at blanks and
at line feeds on top of one general splitting function.
-/

namespace CSurvey.Text

/-- The characters with the Unicode property `White_Space`. -/
def isBlank (c : Char) : Bool :=
  let code := c.toNat
  (9 ≤ code && code ≤ 13) || code == 0x20 || code == 0x85 || code == 0xA0 || code == 0x1680
    || (0x2000 ≤ code && code ≤ 0x200A) || code == 0x2028 || code == 0x2029 || code == 0x202F
    || code == 0x205F || code == 0x3000

/-- The pieces of `cs` between the characters that satisfy `cut`; one more piece than there
are such characters. -/
def splitWhere (cut : Char → Bool) : List Char → List (List Char)
  | [] => [[]]
  | c :: rest =>
    if cut c then
      [] :: splitWhere cut rest
    else
      match splitWhere cut rest with
      | [] => [[c]]
      | piece :: pieces => (c :: piece) :: pieces

/-- The maximal runs of characters that are not blank. -/
def words (cs : List Char) : List (List Char) :=
  (splitWhere isBlank cs).filter (fun piece => !piece.isEmpty)

/-- `cs` without the blanks at its two ends. -/
def trim (cs : List Char) : List Char :=
  ((cs.dropWhile isBlank).reverse.dropWhile isBlank).reverse

/-- The words of `s` with single spaces between them. -/
def collapse (cs : List Char) : String :=
  " ".intercalate ((words cs).map String.ofList)

/-- The number of lines that hold something other than blanks. -/
def nonBlankLines (cs : List Char) : Nat :=
  (splitWhere (· == '\n') cs).countP (fun line => line.any (fun c => !isBlank c))

/-- The parts of a text between its line feeds; a final line feed opens no further part. -/
def lines (cs : List Char) : List (List Char) :=
  let parts := splitWhere (· == '\n') cs
  if parts.getLast? == some [] then parts.dropLast else parts

theorem splitWhere_ne_nil (cut : Char → Bool) (cs : List Char) : splitWhere cut cs ≠ [] := by
  cases cs with
  | nil => simp [splitWhere]
  | cons c rest =>
    simp only [splitWhere]
    split
    · simp
    · split <;> simp

end CSurvey.Text
