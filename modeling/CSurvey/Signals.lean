import CSurvey.Sum
import CSurvey.Tally
import CSurvey.Token.Place

/-!
# Quality signals

What the words of a body say about its care: numbers of ten or more, variables of
one letter, and the ways in which it reports or checks for failure.
-/

namespace CSurvey

structure Signals where
  /-- Whole numbers of value 10 or more, as written, sorted without repetition. -/
  magicNumbers : List String
  /-- Variables of one letter, sorted without repetition. -/
  shortIdentifiers : List String
  returnsErrorCode : Bool
  usesErrno : Bool
  /-- Comparisons against `NULL`. -/
  nullChecks : Nat
deriving DecidableEq, Repr, Inhabited

namespace Signals

/-- Whether nothing shows that failure is reported. -/
def lacksErrorPath (signals : Signals) : Bool :=
  !signals.returnsErrorCode && !signals.usesErrno && signals.nullChecks == 0

/-- How failure is reported, in words. -/
def errorHandling (signals : Signals) : List String :=
  (if signals.returnsErrorCode then ["returns error codes"] else []) ++
  (if signals.usesErrno then ["consults errno"] else []) ++
  (if 0 < signals.nullChecks then [s!"{signals.nullChecks} NULL check(s)"] else [])

/-- The value of a digit, letters counting from ten. -/
def digitValue (c : Char) : Nat :=
  if c.isDigit then c.toNat - 48
  else if 'a' ≤ c && c ≤ 'z' then c.toNat - 87
  else if 'A' ≤ c && c ≤ 'Z' then c.toNat - 55
  else 36

def numeral? (radix : Nat) (digits : List Char) : Option Nat :=
  if digits.isEmpty || !digits.all (fun c => digitValue c < radix) then none
  else
    let value := digits.foldl (fun value c => value * radix + digitValue c) 0
    if value < wordSize then some value else none

/-- The value of a whole number of C: hexadecimal after `0x`, octal after another `0`, and
otherwise decimal, without its suffixes. -/
def wholeNumber? (text : String) : Option Nat :=
  let isSuffix (c : Char) : Bool := c == 'u' || c == 'U' || c == 'l' || c == 'L'
  match (text.toList.reverse.dropWhile isSuffix).reverse with
  | '0' :: 'x' :: digits => numeral? 16 digits
  | '0' :: 'X' :: digits => numeral? 16 digits
  | '0' :: digit :: digits => numeral? 8 (digit :: digits)
  | digits => numeral? 10 digits

/-- Whether a token compares for equality. -/
def isEquality (tok : Token) : Bool :=
  tok.isPunct "==" || tok.isPunct "!="

/-- Whether a token is a number of value ten or more. -/
def isMagic (tok : Token) : Bool :=
  tok.isNumber && (wholeNumber? tok.text).any (10 ≤ ·)

/-- Whether a place holds a variable of one letter. -/
def isShort (place : Place) : Bool :=
  place.here.isName && place.here.text.length == 1 && !Token.punctAt place.next "("

/-- Whether a place returns a negative number or a value that stands for failure. -/
def returnsFailure (place : Place) : Bool :=
  place.here.isPunct "return" &&
    match place.after.map Token.text with
    | [] => false
    | first :: rest =>
      ["NULL", "0xffffffff", "EOF"].contains first ||
        (first == "-" && rest.head?.any (fun second => second.toList.head?.any Char.isDigit))

/-- Whether a place compares against `NULL`. -/
def checksNull (place : Place) : Bool :=
  place.here.isPunct "NULL" && (place.previous.any isEquality || place.next.any isEquality)

def ofTokens (body : List Token) : Signals :=
  let places := Place.all body
  { magicNumbers := (Tally.ofNames ((body.filter isMagic).map Token.text)).names
    shortIdentifiers :=
      (Tally.ofNames ((places.filter isShort).map (fun place => place.here.text))).names
    returnsErrorCode := places.any returnsFailure
    usesErrno := body.any (·.isPunct "errno")
    nullChecks := places.countP checksNull }

end Signals

end CSurvey
