import CSurvey.Pattern.CharSet
import CSurvey.Pattern.Property.Category
import CSurvey.Pattern.Property.Folding
import CSurvey.Pattern.Property.Script

/-!
# Properties of characters

The classes that a pattern can name: words, digits and blanks, general
categories, scripts and a few other properties, and case folding.
-/

namespace CSurvey.Pattern.Property

/-- The value of a hexadecimal number. -/
def hexNumber (digits : List Char) : Nat :=
  digits.foldl (fun value c =>
    value * 16 + (if c.isDigit then c.toNat - 48 else c.toNat - 87)) 0

/-- The pieces of a text between marks. -/
def pieces (mark : Char) : List Char → List (List Char)
  | [] => [[]]
  | c :: rest =>
    if c = mark then [] :: pieces mark rest
    else
      match pieces mark rest with
      | [] => [[c]]
      | piece :: others => (c :: piece) :: others

/-- The ranges written in a text of a table. -/
def rangesOf (text : String) : CharSet :=
  (pieces ' ' text.toList).filterMap (fun piece =>
    match pieces '-' piece with
    | [single] => if single.isEmpty then none else some (hexNumber single, hexNumber single)
    | [low, high] => some (hexNumber low, hexNumber high)
    | _ => none)

/-- The code points of a general category. -/
def category (name : String) : CharSet :=
  match categories.find? (fun entry => entry.1.contains name) with
  | some entry => rangesOf entry.2
  | none => []

def unionOf (names : List String) : CharSet :=
  CharSet.ofRanges (names.flatMap category)

/-- Groups of general categories, by their names. -/
def categoryGroups : List (List String × List String) :=
  [(["l", "letter"], ["lu", "ll", "lt", "lm", "lo"]),
   (["lc", "casedletter"], ["lu", "ll", "lt"]),
   (["m", "mark", "combiningmark"], ["mn", "mc", "me"]),
   (["n", "number"], ["nd", "nl", "no"]),
   (["p", "punctuation", "punct"], ["pc", "pd", "ps", "pe", "pi", "pf", "po"]),
   (["s", "symbol"], ["sm", "sc", "sk", "so"]),
   (["z", "separator"], ["zs", "zl", "zp"])]

/-- The code points that have a category. -/
def assigned : CharSet :=
  CharSet.union (CharSet.ofRanges (categories.flatMap (fun entry => rangesOf entry.2)))
    [(0xD800, 0xDFFF)]

def digit : CharSet :=
  category "nd"

/-- The code points with the property `White_Space`. -/
def blank : CharSet :=
  [(9, 13), (0x20, 0x20), (0x85, 0x85), (0xA0, 0xA0), (0x1680, 0x1680), (0x2000, 0x200A),
   (0x2028, 0x2029), (0x202F, 0x202F), (0x205F, 0x205F), (0x3000, 0x3000)]

def lowercase : CharSet :=
  CharSet.union (category "ll") (rangesOf otherLowercase)

def uppercase : CharSet :=
  CharSet.union (category "lu") (rangesOf otherUppercase)

def alphabetic : CharSet :=
  CharSet.ofRanges (lowercase ++ uppercase ++ unionOf ["lt", "lm", "lo", "nl"] ++
    rangesOf otherAlphabetic)

/-- The code points of words: alphabetic ones, marks, digits, connectors and joiners. -/
def word : CharSet :=
  CharSet.ofRanges (alphabetic ++ unionOf ["mn", "mc", "me", "nd", "pc"] ++ [(0x200C, 0x200D)])

/-- The properties with a name of their own. -/
def binary? (name : String) : Option CharSet :=
  if ["alphabetic", "alpha"].contains name then some alphabetic
  else if ["lowercase", "lower"].contains name then some lowercase
  else if ["uppercase", "upper"].contains name then some uppercase
  else if ["whitespace", "wspace", "space"].contains name then some blank
  else none

/-- The code points of a general category, a group of them, or one of the special names. -/
def generalCategory? (name : String) : Option CharSet :=
  if name == "any" then some CharSet.all
  else if name == "assigned" then some assigned
  else if name == "ascii" then some [(0, 0x7F)]
  else if ["cn", "unassigned"].contains name then some (CharSet.complement assigned)
  else if ["cs", "surrogate"].contains name then some []
  else if ["c", "other"].contains name then
    some (CharSet.union (CharSet.complement assigned) (unionOf ["cc", "cf", "co"]))
  else
    match categoryGroups.find? (fun entry => entry.1.contains name) with
    | some entry => some (unionOf entry.2)
    | none =>
      (categories.find? (fun entry => entry.1.contains name)).map (fun entry => rangesOf entry.2)

/-- The code points of a script. -/
def script? (name : String) : Option CharSet :=
  (scripts.find? (fun entry => entry.1.contains name)).map (fun entry => rangesOf entry.2)

/-- A name in lower case, without separators and without a leading `is`. -/
def normalize (name : List Char) : String :=
  let plain := (name.filter (fun c => !(c == ' ' || c == '_' || c == '-'))).map Char.toLower
  match plain with
  | 'i' :: 's' :: rest => if rest == ['c'] then "isc" else String.ofList rest
  | _ => String.ofList plain

/-- The code points that a single name stands for. -/
def named? (name : List Char) : Option CharSet :=
  let plain := normalize name
  let own := if ["cf", "sc", "lc"].contains plain then none else binary? plain
  (own <|> generalCategory? plain) <|> script? plain

/-- The code points that have a value of a property. -/
def valued? (property value : List Char) : Option CharSet :=
  let name := normalize property
  if ["gc", "generalcategory"].contains name then generalCategory? (normalize value)
  else if ["sc", "script"].contains name then script? (normalize value)
  else none

/-- The sets of code points that are equal when case is ignored. -/
def foldings : List (List Nat) :=
  (pieces ' ' foldingSets.toList).map (fun set => (pieces ',' set).map hexNumber)

/-- A set with all code points that differ from one of its own in case only. -/
def foldCase (set : CharSet) : CharSet :=
  let more := foldings.filter (fun codes => codes.any set.contains)
  CharSet.ofRanges (set ++ more.flatten.map (fun code => (code, code)))

end CSurvey.Pattern.Property
