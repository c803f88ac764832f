/-!
# Reading UTF-8

Octets are read one at a time.  Between two octets the reader either stands
between characters or owes continuation octets; the first of those has a range
of its own, which keeps out overlong forms, surrogates and code points past the
last one.  An octet that cannot continue ends the ill-formed part before it and
is read again from between characters, so that every maximal ill-formed part
gives exactly one empty result.
-/

namespace CSurvey.Text.Utf8

/-- A character that has begun: how many octets it still needs, the range of the next one, and
the value of the bits read so far. -/
structure Pending where
  owed : Nat
  low : Nat
  high : Nat
  value : Nat

/-- What the first octet of a character says. -/
inductive Lead where
  | done (c : Char)
  | opens (pending : Pending)
  | illFormed

/-- Read the first octet of a character. -/
def lead (octet : Nat) : Lead :=
  if octet < 0x80 then .done (Char.ofNat octet)
  else if octet < 0xC2 then .illFormed
  else if octet < 0xE0 then .opens ⟨1, 0x80, 0xBF, octet - 0xC0⟩
  else if octet = 0xE0 then .opens ⟨2, 0xA0, 0xBF, 0⟩
  else if octet = 0xED then .opens ⟨2, 0x80, 0x9F, 0xD⟩
  else if octet < 0xF0 then .opens ⟨2, 0x80, 0xBF, octet - 0xE0⟩
  else if octet = 0xF0 then .opens ⟨3, 0x90, 0xBF, 0⟩
  else if octet < 0xF4 then .opens ⟨3, 0x80, 0xBF, octet - 0xF0⟩
  else if octet = 0xF4 then .opens ⟨3, 0x80, 0x8F, 4⟩
  else .illFormed

/-- The characters of a sequence of octets in order, with `none` for each maximal ill-formed
part.  `pending` is the character that has begun, if any. -/
def pieces : Option Pending → List UInt8 → List (Option Char)
  | none, [] => []
  | some _, [] => [none]
  | pending, octet :: rest =>
    let fresh (before : List (Option Char)) : List (Option Char) :=
      match lead octet.toNat with
      | .done c => before ++ some c :: pieces none rest
      | .opens opened => before ++ pieces (some opened) rest
      | .illFormed => before ++ none :: pieces none rest
    match pending with
    | none => fresh []
    | some begun =>
      if begun.low ≤ octet.toNat && octet.toNat ≤ begun.high then
        let value := begun.value * 64 + (octet.toNat - 0x80)
        if begun.owed ≤ 1 then
          some (Char.ofNat value) :: pieces none rest
        else
          pieces (some ⟨begun.owed - 1, 0x80, 0xBF, value⟩) rest
      else
        fresh [none]

/-- The octets of some characters, one after the other. -/
def encode (cs : List Char) : List UInt8 :=
  cs.flatMap String.utf8EncodeChar

/-- The characters of `octets`, each maximal ill-formed part replaced by U+FFFD. -/
def decodeLossy (octets : List UInt8) : List Char :=
  (pieces none octets).map (·.getD '\uFFFD')

/-- The characters of `octets`, if all of them are well formed. -/
def decode? (octets : List UInt8) : Option (List Char) :=
  (pieces none octets).mapM id

end CSurvey.Text.Utf8
