/-!
# Decimal forms of binary fractions

A double is a whole number times a power of two.  This file finds, in exact
arithmetic, the shortest decimal that lies closer to it than to any other
double, and the decimal with a fixed number of places nearest to it.
-/

namespace CSurvey.Decimal

/-- The value `digits * 10 ^ exponent`. -/
structure Scientific where
  digits : Nat
  exponent : Int
deriving DecidableEq, Repr

/-- The value `mantissa * 2 ^ exponent`; `narrow` says that the next smaller double is half as far
away as the next larger one. -/
structure Dyadic where
  mantissa : Nat
  exponent : Int
  narrow : Bool
deriving DecidableEq, Repr

/-- The absolute value of a finite double, from its bits. -/
def Dyadic.ofBits (bits : Nat) : Dyadic :=
  let fraction := bits % Nat.pow 2 52
  let biased := bits / Nat.pow 2 52 % 2048
  if biased = 0 then
    ⟨fraction, -1074, false⟩
  else
    ⟨Nat.pow 2 52 + fraction, Int.ofNat biased - 1075, fraction == 0 && 1 < biased⟩

/-- `count * base ^ exponent` as a quotient of natural numbers. -/
def scaled (count base : Nat) (exponent : Int) : Nat × Nat :=
  if 0 ≤ exponent then (count * Nat.pow base exponent.toNat, 1)
  else (count, Nat.pow base (-exponent).toNat)

/-- Whether the first quotient is less than the second. -/
def quotientLt (first second : Nat × Nat) : Bool :=
  first.1 * second.2 < second.1 * first.2

/-- The number of decimal digits. -/
def digitCount (n : Nat) : Nat :=
  (Nat.toDigits 10 n).length

/-- The number `p` with `10 ^ (p - 1) ≤ num / den < 10 ^ p`, for a positive quotient. -/
def magnitude (num den : Nat) : Int :=
  if den ≤ num then
    digitCount (num / den)
  else
    1 - Int.ofNat (digitCount ((den + num - 1) / num - 1))

/-- Whether `candidate` reads back as `value`: it lies in the interval of numbers nearer to
`value` than to its neighbours, whose ends belong to it when the mantissa is even. -/
def Dyadic.accepts (value : Dyadic) (candidate : Nat × Nat) : Bool :=
  let low := scaled (4 * value.mantissa - (if value.narrow then 1 else 2)) 2 (value.exponent - 2)
  let high := scaled (4 * value.mantissa + 2) 2 (value.exponent - 2)
  if value.mantissa % 2 = 0 then
    !quotientLt candidate low && !quotientLt high candidate
  else
    quotientLt low candidate && quotientLt candidate high

/-- The nearer of the two neighbours of `value` with `count` significant digits that reads back
as `value`. -/
def Dyadic.withDigits (value : Dyadic) (count : Nat) : Option Scientific :=
  let (num, den) := scaled value.mantissa 2 value.exponent
  let exponent := magnitude num den - count
  let (top, bottom) :=
    if 0 ≤ exponent then (num, den * Nat.pow 10 exponent.toNat)
    else (num * Nat.pow 10 (-exponent).toNat, den)
  let below := top / bottom
  let remainder := top % bottom
  let belowFits := value.accepts (scaled below 10 exponent)
  let aboveFits := value.accepts (scaled (below + 1) 10 exponent)
  let nearAbove := bottom < 2 * remainder || (2 * remainder == bottom && below % 2 == 1)
  if belowFits && (!aboveFits || !nearAbove) then some ⟨below, exponent⟩
  else if aboveFits then some ⟨below + 1, exponent⟩
  else none

/-- The decimal with the fewest digits that reads back as `value`. -/
def Dyadic.shortest (value : Dyadic) : Scientific :=
  if value.mantissa = 0 then ⟨0, 0⟩
  else ((List.range 17).findSome? (fun before => value.withDigits (before + 1))).getD ⟨0, 0⟩

/-- Remove the zeros that end a digit string. -/
def trimZeros : Nat → Scientific → Scientific
  | 0, value => value
  | fuel + 1, value =>
    if value.digits ≠ 0 && value.digits % 10 = 0 then
      trimZeros fuel ⟨value.digits / 10, value.exponent + 1⟩
    else value

/-- The quotient rounded to the nearest whole number, a half to the even neighbour. -/
def roundEven (num den : Nat) : Nat :=
  let below := num / den
  let remainder := num % den
  if den < 2 * remainder || (2 * remainder == den && below % 2 == 1) then below + 1 else below

/-- The number of tenths nearest to `value`. -/
def Dyadic.tenths (value : Dyadic) : Nat :=
  let (num, den) := scaled value.mantissa 2 value.exponent
  roundEven (num * 10) den

/-- Whether the sign bit is set. -/
def isNegative (x : Float) : Bool :=
  x.toBits.toNat / Nat.pow 2 63 == 1

/-- A number with one decimal place. -/
def onePlace (x : Float) : String :=
  let tenths := (Dyadic.ofBits x.toBits.toNat).tenths
  (if isNegative x then "-" else "") ++ toString (tenths / 10) ++ "." ++ toString (tenths % 10)

end CSurvey.Decimal
