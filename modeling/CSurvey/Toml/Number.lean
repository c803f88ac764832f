import CSurvey.Json.Reader
import CSurvey.Toml.Value

/-!
# Numbers, dates and times of TOML

Each reader takes what stands at the front of a text and gives what follows it.
-/

namespace CSurvey.Toml

/-- The digits at the front, single underscores between them left out. -/
def digitRun (isDigit : Char → Bool) : List Char → List Char × List Char
  | [] => ([], [])
  | '_' :: c :: rest =>
    if isDigit c then
      let (more, left) := digitRun isDigit rest
      (c :: more, left)
    else ([], '_' :: c :: rest)
  | c :: rest =>
    if isDigit c then
      let (more, left) := digitRun isDigit rest
      (c :: more, left)
    else ([], c :: rest)

/-- Digits, of which the first may not be an underscore. -/
def digits? (isDigit : Char → Bool) (cs : List Char) : Option (List Char × List Char) :=
  if cs.head?.any isDigit then some (digitRun isDigit cs) else none

def numeral (radix : Nat) (digits : List Char) : Nat :=
  digits.foldl (fun value c => value * radix + (Json.Reader.hexValue? c).getD 0) 0

/-- A whole number of 64 bits with a sign. -/
def fitting (value : Int) : Option Toml :=
  if -(Nat.pow 2 63 : Int) ≤ value && value < (Nat.pow 2 63 : Int) then some (.int value) else none

/-- A whole number in a radix that its first two characters name. -/
def prefixed? : List Char → Option (Toml × List Char)
  | '0' :: mark :: rest => do
    let (radix, isDigit) ← match mark with
      | 'x' => some (16, fun (c : Char) => (Json.Reader.hexValue? c).isSome)
      | 'o' => some (8, fun (c : Char) => '0' ≤ c && c ≤ '7')
      | 'b' => some (2, fun (c : Char) => c == '0' || c == '1')
      | _ => none
    let (digits, left) ← digits? isDigit rest
    return (← fitting (numeral radix digits), left)
  | _ => none

/-- The sign at the front and what follows it. -/
def sign (cs : List Char) : Bool × List Char :=
  match cs with
  | '-' :: rest => (true, rest)
  | '+' :: rest => (false, rest)
  | _ => (false, cs)

/-- The exponent at the front. -/
def exponent? (cs : List Char) : Option (Int × List Char) :=
  match cs with
  | mark :: rest =>
    if mark == 'e' || mark == 'E' then do
      let (negative, rest) := sign rest
      let (digits, left) ← digits? Char.isDigit rest
      let value : Int := numeral 10 digits
      return (if negative then -value else value, left)
    else none
  | [] => none

/-- The number with the given digits and exponent of ten, unless it is too large. -/
def real? (negative : Bool) (digits : Nat) (exponent : Int) : Option Toml :=
  let bounded : Int := max (-5000 - (digits.log2 : Int)) (min exponent 5000)
  let value := Float.ofScientific digits (bounded < 0) bounded.natAbs
  if value.isInf && !negative then none else some (.real (if negative then -value else value))

/-- The number at the front, whole or not. -/
def decimal? (cs : List Char) : Option (Toml × List Char) := do
  let (negative, rest) := sign cs
  let (whole, rest) ← match rest with
    | '0' :: rest => some (['0'], rest)
    | _ => digits? Char.isDigit rest
  let fraction : Option (List Char × List Char) := match rest with
    | '.' :: more => digits? Char.isDigit more
    | _ => none
  let places := (fraction.map (·.1)).getD []
  let afterPlaces := (fraction.map (·.2)).getD rest
  match fraction, exponent? afterPlaces with
  | none, none =>
    let value : Int := numeral 10 whole
    return (← fitting (if negative then -value else value), rest)
  | _, power =>
    let shift : Int := (power.map (·.1)).getD 0 - places.length
    return (← real? negative (numeral 10 (whole ++ places)) shift,
      (power.map (·.2)).getD afterPlaces)

/-- Infinity and the number that is none, with or without a sign. -/
def special? (cs : List Char) : Option (Toml × List Char) :=
  let (negative, rest) := sign cs
  match rest with
  | 'i' :: 'n' :: 'f' :: left =>
    some (.real (if negative then -1.0 / 0.0 else 1.0 / 0.0), left)
  | 'n' :: 'a' :: 'n' :: left => some (.real (0.0 / 0.0), left)
  | _ => none

/-- A number of exactly `count` digits within bounds. -/
def fixed? (count low high : Nat) (cs : List Char) : Option (Nat × List Char) :=
  let digits := cs.take count
  let value := numeral 10 digits
  if digits.length == count && digits.all Char.isDigit && low ≤ value && value ≤ high then
    some (value, cs.drop count)
  else none

/-- What follows a given character. -/
def mark? (mark : Char) : List Char → Option (List Char)
  | [] => none
  | c :: rest => if c == mark then some rest else none

def monthDays (year month : Nat) : Nat :=
  if month == 2 then
    if (year % 4 == 0 && year % 100 != 0) || year % 400 == 0 then 29 else 28
  else if [4, 6, 9, 11].contains month then 30
  else 31

/-- What follows a date. -/
def date? (cs : List Char) : Option (List Char) := do
  let (year, rest) ← fixed? 4 0 9999 cs
  let (month, rest) ← fixed? 2 1 12 (← mark? '-' rest)
  let (_, rest) ← fixed? 2 1 (monthDays year month) (← mark? '-' rest)
  return rest

/-- What follows a time of day. -/
def time? (cs : List Char) : Option (List Char) := do
  let (_, rest) ← fixed? 2 0 23 cs
  let (_, rest) ← fixed? 2 0 59 (← mark? ':' rest)
  let (_, rest) ← fixed? 2 0 60 (← mark? ':' rest)
  match rest with
  | '.' :: c :: more => if c.isDigit then return more.dropWhile Char.isDigit else return rest
  | _ => return rest

/-- What follows the offset of a time, if one stands at the front. -/
def offset (cs : List Char) : List Char :=
  let numbered : Option (List Char) := do
    let rest ← mark? '+' cs <|> mark? '-' cs
    let (_, rest) ← fixed? 2 0 23 rest
    let (_, rest) ← fixed? 2 0 59 (← mark? ':' rest)
    return rest
  ((mark? 'Z' cs <|> mark? 'z' cs) <|> numbered).getD cs

/-- What follows the time that belongs to a date, if one stands at the front. -/
def timeOfDate (cs : List Char) : List Char :=
  ((mark? 'T' cs <|> mark? 't' cs <|> mark? ' ' cs).bind time?).elim cs offset

/-- The date, time or both at the front. -/
def dateTime? (cs : List Char) : Option (Toml × List Char) :=
  ((date? cs).map timeOfDate <|> time? cs).map (fun left =>
    (.dateTime (String.ofList (cs.take (cs.length - left.length))), left))

def number? (cs : List Char) : Option (Toml × List Char) :=
  dateTime? cs <|> special? cs <|> prefixed? cs <|> decimal? cs

end CSurvey.Toml
