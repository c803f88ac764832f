/-!
# JSON values

The values that requests, answers and settings are made of.  Whole numbers are
kept apart from other numbers, and an object keeps its fields in order.
-/

namespace CSurvey

inductive Json where
  | null
  | bool (value : Bool)
  | int (value : Int)
  | real (value : Float)
  | str (value : String)
  | arr (items : List Json)
  | obj (fields : List (String × Json))
deriving Inhabited

namespace Json

/-- A count. -/
def nat (n : Nat) : Json :=
  .int n

/-- `null` for nothing. -/
def ofOption {α : Type} (encode : α → Json) : Option α → Json
  | none => .null
  | some value => encode value

def list {α : Type} (encode : α → Json) (items : List α) : Json :=
  .arr (items.map encode)

/-- An array of strings. -/
def strings (items : List String) : Json :=
  list .str items

/-- The value of a field of an object; of fields with one name the last counts. -/
def field? (name : String) : Json → Option Json
  | .obj fields => (fields.reverse.find? (fun field => field.1 == name)).map (·.2)
  | _ => none

def fieldD (name : String) (value : Json) : Json :=
  (value.field? name).getD .null

end Json

end CSurvey
