import CSurvey.Json.Value
import CSurvey.Sum

/-!
# Decoding records

A record is read from an object, whose unknown fields are ignored, or from an
array that gives its fields by position.  Each field says what it takes: a value,
a value or `null`, or a value with a default.
-/

namespace CSurvey

namespace Json

/-- What a record's source gives for one of its fields. -/
inductive Slot where
  | given (value : Json)
  /-- An object without that field. -/
  | absent
  /-- An array that ends before that field. -/
  | beyond

namespace Slot

/-- A field that has to be there. -/
def required {α : Type} (decode : Json → Option α) : Slot → Option α
  | given value => decode value
  | _ => none

/-- A field whose value may be `null`, and which an object may leave out. -/
def nullable {α : Type} (decode : Json → Option α) : Slot → Option (Option α)
  | given .null => some none
  | given value => (decode value).map some
  | absent => some none
  | beyond => none

/-- A field whose value may be `null`, and which may be left out. -/
def optional {α : Type} (decode : Json → Option α) : Slot → Option (Option α)
  | beyond => some none
  | slot => slot.nullable decode

/-- A field with a default for when it is left out. -/
def withDefault {α : Type} (default : α) (decode : Json → Option α) : Slot → Option α
  | given value => decode value
  | _ => some default

end Slot

def objectSlots? (names : List String) (value : Json) : Option (List Slot) :=
  match value with
  | .obj _ =>
    some (names.map (fun name =>
      match value.field? name with
      | some given => Slot.given given
      | none => Slot.absent))
  | _ => none

/-- The slots of an object, or of an array with at most as many items as there are fields. -/
def slots? (names : List String) (value : Json) : Option (List Slot) :=
  match value with
  | .arr items =>
    if names.length < items.length then none
    else some (items.map Slot.given ++ List.replicate (names.length - items.length) Slot.beyond)
  | _ => value.objectSlots? names

/-- A whole number below `limit`. -/
def natBelow? (limit : Nat) : Json → Option Nat
  | .int value => if 0 ≤ value && value < limit then some value.toNat else none
  | _ => none

/-- A 64-bit count. -/
def nat? : Json → Option Nat :=
  natBelow? wordSize

def str? : Json → Option String
  | .str value => some value
  | _ => none

def bool? : Json → Option Bool
  | .bool value => some value
  | _ => none

/-- Any number. -/
def float? : Json → Option Float
  | .real value => some value
  | .int value => some (if 0 ≤ value then value.toNat.toUInt64.toFloat
      else -(value.natAbs.toUInt64.toFloat))
  | _ => none

def list? {α : Type} (decode : Json → Option α) : Json → Option (List α)
  | .arr items => items.mapM decode
  | _ => none

def strings? : Json → Option (List String) :=
  list? str?

/-- The value itself. -/
def any? (value : Json) : Option Json :=
  some value

/-- The name of a case without data: a string, or an object whose one field has that name and
the value `null`. -/
def caseName? : Json → Option String
  | .str name => some name
  | .obj [(name, .null)] => some name
  | _ => none

/-- The name and value pairs of an object, each value decoded; of fields with one name the last
counts. -/
def pairs? {α : Type} (decode : Json → Option α) : Json → Option (List (String × α))
  | .obj fields => do
    let latest := fields.foldl
      (fun (kept : List (String × Json)) field =>
        (kept.filter (fun other => other.1 != field.1)) ++ [field]) []
    latest.mapM (fun field => do some (field.1, ← decode field.2))
  | _ => none

end Json

end CSurvey
