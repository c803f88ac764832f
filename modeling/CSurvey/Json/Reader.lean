import CSurvey.Json.Value

/-!
# Reading JSON

A reader over lists of characters.  A number without fraction and exponent that
fits 64 bits is whole; any other one is taken as its first digits, as far as they
fit a 64-bit word, scaled by a power of ten.
-/

namespace CSurvey

namespace Json.Reader

def skipBlanks (cs : List Char) : List Char :=
  cs.dropWhile (fun c => c == ' ' || c == '\t' || c == '\n' || c == '\r')

def hexValue? (c : Char) : Option Nat :=
  if c.isDigit then some (c.toNat - 48)
  else if 'a' ≤ c && c ≤ 'f' then some (c.toNat - 87)
  else if 'A' ≤ c && c ≤ 'F' then some (c.toNat - 55)
  else none

/-- The value of four hexadecimal digits. -/
def hex4? (a b c d : Char) : Option Nat := do
  some ((((← hexValue? a) * 16 + (← hexValue? b)) * 16 + (← hexValue? c)) * 16 + (← hexValue? d))

/-- The character of a one-letter escape. -/
def simpleEscape? (c : Char) : Option Char :=
  if c = '"' then some '"'
  else if c = '\\' then some '\\'
  else if c = '/' then some '/'
  else if c = 'b' then some '\x08'
  else if c = 'f' then some '\x0c'
  else if c = 'n' then some '\n'
  else if c = 'r' then some '\r'
  else if c = 't' then some '\t'
  else none

/-- The rest of a string after its opening quote: its characters and what follows it.  `high` is
a high surrogate that waits for its partner. -/
def stringRest (high : Option Nat) (done : List Char) : List Char → Option (String × List Char)
  | [] => none
  | '\\' :: 'u' :: a :: b :: c :: d :: rest =>
    match hex4? a b c d, high with
    | none, _ => none
    | some unit, none =>
      if 0xD800 ≤ unit && unit ≤ 0xDBFF then stringRest (some unit) done rest
      else if 0xDC00 ≤ unit && unit ≤ 0xDFFF then none
      else stringRest none (Char.ofNat unit :: done) rest
    | some unit, some first =>
      if 0xDC00 ≤ unit && unit ≤ 0xDFFF then
        let code := 0x10000 + (first - 0xD800) * 1024 + (unit - 0xDC00)
        stringRest none (Char.ofNat code :: done) rest
      else none
  | '\\' :: c :: rest =>
    match simpleEscape? c, high with
    | some plain, none => stringRest none (plain :: done) rest
    | _, _ => none
  | c :: rest =>
    if high.isSome || c.toNat < 0x20 || c = '\\' then none
    else if c = '"' then some (String.ofList done.reverse, rest)
    else stringRest none (c :: done) rest

/-- The digits at the front and what follows them. -/
def digits (cs : List Char) : List Nat × List Char :=
  ((cs.takeWhile Char.isDigit).map (fun c => c.toNat - 48), cs.dropWhile Char.isDigit)

/-- Take digits into a 64-bit significand for as long as they fit; the number of digits taken
comes with it. -/
def significand (start : Nat) : List Nat → Nat × Nat
  | [] => (start, 0)
  | digit :: rest =>
    if start * 10 + digit < Nat.pow 2 64 then
      let (value, count) := significand (start * 10 + digit) rest
      (value, count + 1)
    else (start, 0)

def powerOfTen (exponent : Nat) : Float :=
  Float.ofScientific 1 false exponent

/-- A double times a power of ten; `none` when the result is not finite.  `fuel` bounds the steps
by which a very small exponent is worked off. -/
def scale : Nat → Float → Int → Option Float
  | 0, value, _ => some value
  | fuel + 1, value, exponent =>
    if exponent.natAbs ≤ 308 then
      if 0 ≤ exponent then
        let result := value * powerOfTen exponent.toNat
        if result.isInf then none else some result
      else some (value / powerOfTen exponent.natAbs)
    else if value == 0.0 then some value
    else if 0 ≤ exponent then none
    else scale fuel (value / powerOfTen 308) (exponent + 308)

/-- A number that is not whole, from its sign, its digits before and after the point, and its
exponent. -/
def real (negative : Bool) (whole fraction : List Nat) (exponent : Int) : Option Json :=
  let (first, taken) := significand 0 whole
  let dropped := whole.length - taken
  let (value, places) := if dropped = 0 then significand first fraction else (first, 0)
  let total : Int := exponent + dropped - places
  (scale 20 value.toUInt64.toFloat total).map (fun x => .real (if negative then -x else x))

def numeral (ds : List Nat) : Nat :=
  ds.foldl (fun value digit => value * 10 + digit) 0

/-- The number at the front. -/
def number (cs : List Char) : Option (Json × List Char) :=
  let negative := cs.head? == some '-'
  let (whole, rest) := digits (if negative then cs.tail else cs)
  if whole.isEmpty || (whole.head? == some 0 && 1 < whole.length) then none
  else
    let (fraction, afterFraction) :=
      match rest with
      | '.' :: more => let (ds, left) := digits more; (some ds, left)
      | _ => (none, rest)
    if fraction == some [] then none
    else
      let exponentPart : Option (Option Int × List Char) :=
        match afterFraction with
        | mark :: more =>
          if mark = 'e' || mark = 'E' then
            let sign := more.head?
            let signed := sign == some '-' || sign == some '+'
            let (ds, left) := digits (if signed then more.tail else more)
            let value := Int.ofNat (numeral ds)
            if ds.isEmpty then none
            else some (some (if sign == some '-' then -value else value), left)
          else some (none, afterFraction)
        | [] => some (none, [])
      match exponentPart with
      | none => none
      | some (exponent, left) =>
        let value := numeral whole
        let isWhole := fraction.isNone && exponent.isNone
        if isWhole && !negative && value < Nat.pow 2 64 then
          some (.int value, left)
        else if isWhole && negative && value ≠ 0 && value ≤ Nat.pow 2 63 then
          some (.int (-Int.ofNat value), left)
        else
          (real negative whole (fraction.getD []) (exponent.getD 0)).map (fun x => (x, left))

/-- What follows a fixed word. -/
def keyword (word : List Char) (cs : List Char) : Option (List Char) :=
  if cs.take word.length == word then some (cs.drop word.length) else none

mutual

/-- The value at the front and what follows it. -/
def value (fuel : Nat) (cs : List Char) : Option (Json × List Char) :=
  match fuel with
  | 0 => none
  | fuel + 1 =>
    match skipBlanks cs with
    | [] => none
    | '\x7b' :: rest =>
      match skipBlanks rest with
      | '\x7d' :: more => some (.obj [], more)
      | more => fields fuel [] more
    | '[' :: rest =>
      match skipBlanks rest with
      | ']' :: more => some (.arr [], more)
      | more => items fuel [] more
    | '"' :: rest => (stringRest none [] rest).map (fun (s, more) => (.str s, more))
    | 'n' :: rest => (keyword ['u', 'l', 'l'] rest).map (fun more => (.null, more))
    | 't' :: rest => (keyword ['r', 'u', 'e'] rest).map (fun more => (.bool true, more))
    | 'f' :: rest => (keyword ['a', 'l', 's', 'e'] rest).map (fun more => (.bool false, more))
    | cs => number cs

/-- The items of an array up to its closing bracket. -/
def items (fuel : Nat) (done : List Json) (cs : List Char) : Option (Json × List Char) :=
  match fuel with
  | 0 => none
  | fuel + 1 =>
    match value fuel cs with
    | none => none
    | some (item, rest) =>
      match skipBlanks rest with
      | ',' :: more => items fuel (item :: done) more
      | ']' :: more => some (.arr (item :: done).reverse, more)
      | _ => none

/-- The fields of an object up to its closing brace. -/
def fields (fuel : Nat) (done : List (String × Json)) (cs : List Char) :
    Option (Json × List Char) :=
  match fuel with
  | 0 => none
  | fuel + 1 =>
    match skipBlanks cs with
    | '"' :: rest =>
      match stringRest none [] rest with
      | none => none
      | some (name, afterName) =>
        match skipBlanks afterName with
        | ':' :: more =>
          match value fuel more with
          | none => none
          | some (item, afterItem) =>
            match skipBlanks afterItem with
            | ',' :: left => fields fuel ((name, item) :: done) left
            | '\x7d' :: left => some (.obj ((name, item) :: done).reverse, left)
            | _ => none
        | _ => none
    | _ => none

end

end Json.Reader

/-- The value that a text holds, if it holds one and nothing else. -/
def Json.parse? (text : String) : Option Json :=
  match Json.Reader.value (2 * text.length + 2) text.toList with
  | some (value, rest) => if (Json.Reader.skipBlanks rest).isEmpty then some value else none
  | none => none

end CSurvey
