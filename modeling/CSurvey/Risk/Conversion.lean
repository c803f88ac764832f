/-!
# Scanning conversions

A format of the scanning functions asks for an unbounded string when one of its
conversions is `s` or `[`, stores its result, and has no field width.
-/

namespace CSurvey

/-- Where reading a format stands. -/
inductive FormatPosition where
  /-- Between conversions. -/
  | literal
  /-- Right after a percent sign. -/
  | percent
  /-- In the digits of a width; `bounded` when there is one, `suppressed` when nothing is stored. -/
  | width (bounded suppressed : Bool)
  /-- In the length modifiers. -/
  | modifiers (bounded suppressed : Bool)
deriving DecidableEq, Repr

namespace FormatPosition

/-- Whether a character is a length modifier. -/
def isModifier (c : Char) : Bool :=
  ['l', 'h', 'L', 'z', 'j', 't', 'm'].contains c

/-- At the character after the modifiers: whether it is an unbounded string conversion.  If it is
not, it is read again from between conversions. -/
def isUnbounded (bounded suppressed : Bool) (c : Char) : Bool :=
  !bounded && !suppressed && (c == 's' || c == '[')

/-- The position after a character, which is not itself a conversion that ends the reading. -/
def next (position : FormatPosition) (c : Char) : FormatPosition :=
  let fresh : FormatPosition := if c == '%' then percent else literal
  let afterWidth (bounded suppressed : Bool) : FormatPosition :=
    if isModifier c then modifiers bounded suppressed else fresh
  match position with
  | literal => fresh
  | percent =>
    if c == '%' then literal
    else if c == '*' then width false true
    else if c.isDigit then width true false
    else afterWidth false false
  | width bounded suppressed =>
    if c.isDigit then width true suppressed else afterWidth bounded suppressed
  | modifiers bounded suppressed => afterWidth bounded suppressed

/-- Whether a character is the conversion of an unbounded string at this position. -/
def storesUnbounded (position : FormatPosition) (c : Char) : Bool :=
  match position with
  | literal => false
  | percent => isUnbounded false false c
  | width bounded suppressed => isUnbounded bounded suppressed c
  | modifiers bounded suppressed => isUnbounded bounded suppressed c

/-- Whether a format read from this position has an unbounded conversion. -/
def hasUnbounded : FormatPosition → List Char → Bool
  | _, [] => false
  | position, c :: rest => position.storesUnbounded c || (position.next c).hasUnbounded rest

end FormatPosition

/-- Whether a format of the scanning functions stores a string of any length. -/
def hasUnboundedConversion (format : String) : Bool :=
  FormatPosition.literal.hasUnbounded format.toList

end CSurvey
