/-!
# Parts of words

Tests on the characters of a word: whether it begins with another, whether it
contains another, and its form with ASCII letters in lower case.
-/

namespace CSurvey.Text

/-- Whether `part` occurs in `cs` without a gap. -/
def hasInfix (part : List Char) : List Char → Bool
  | [] => part.isEmpty
  | c :: rest => part.isPrefixOf (c :: rest) || hasInfix part rest

/-- Whether `part` occurs in `text`. -/
def contains (text part : String) : Bool :=
  hasInfix part.toList text.toList

/-- Whether `text` begins with `front`. -/
def startsWith (text front : String) : Bool :=
  front.toList.isPrefixOf text.toList

/-- `text` with its ASCII letters in lower case. -/
def lower (text : String) : String :=
  String.ofList (text.toList.map Char.toLower)

end CSurvey.Text
