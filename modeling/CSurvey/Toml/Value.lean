import CSurvey.Json.Value

/-!
# TOML values

The values of a TOML document.  A table remembers how it came about, because that
decides whether the document may still add to it.  Nothing is ever defined twice: a
header may complete a table that was only implied, and a key with dots may add to a
table that came about by such keys, but no other table can be reopened.
-/

namespace CSurvey

/-- How a table came about. -/
inductive TableForm where
  /-- By a header of its own. -/
  | header
  /-- By the header of a table inside it. -/
  | implied
  /-- By a key with dots. -/
  | dotted
  /-- In braces. -/
  | inline
deriving DecidableEq, Repr

inductive Toml where
  | bool (value : Bool)
  | int (value : Int)
  | real (value : Float)
  | str (value : String)
  /-- A date, a time or both, as it is written. -/
  | dateTime (text : String)
  | array (items : List Toml)
  | table (form : TableForm) (entries : List (String × Toml))
  /-- The tables of the headers in double brackets. -/
  | tables (items : List (List (String × Toml)))
deriving Inhabited

namespace Toml

/-- The name of the only field of a date or time in the form of an object; no record has a field of
that name. -/
def dateTimeField : String :=
  "$date-time"

mutual

def toJson : Toml → Json
  | bool value => .bool value
  | int value => .int value
  | real value => .real value
  | str value => .str value
  | dateTime text => .obj [(dateTimeField, .str text)]
  | array items => .arr (itemsToJson items)
  | table _ entries => .obj (entriesToJson entries)
  | tables items => .arr (tablesToJson items)

def itemsToJson : List Toml → List Json
  | [] => []
  | item :: rest => item.toJson :: itemsToJson rest

def entriesToJson : List (String × Toml) → List (String × Json)
  | [] => []
  | (name, value) :: rest => (name, value.toJson) :: entriesToJson rest

def tablesToJson : List (List (String × Toml)) → List Json
  | [] => []
  | entries :: rest => .obj (entriesToJson entries) :: tablesToJson rest

end

/-! ## What the statements of a document add to its tables -/

/-- The names and values of a table. -/
abbrev Entries :=
  List (String × Toml)

def entry? (name : String) (entries : Entries) : Option Toml :=
  (entries.find? (fun entry => entry.1 == name)).map (·.2)

def setEntry (name : String) (value : Toml) (entries : Entries) : Entries :=
  entries.map (fun entry => if entry.1 == name then (name, value) else entry)

/-- Change the table at the end of a path, with the tables on the way made if they are not there.
Of tables with headers in double brackets the last is meant.  With `dotted`, the path is that of a
key. -/
def alter (dotted : Bool) (change : TableForm → Entries → Option Entries) :
    List String → TableForm → Entries → Option Entries
  | [], form, entries => change form entries
  | name :: path, _, entries =>
    match entry? name entries with
    | none => do
      let form := if dotted then .dotted else .implied
      return entries ++ [(name, .table form (← alter dotted change path form []))]
    | some (.table form inner) =>
      if form == .inline || (dotted && form == .header) then none
      else do
        return setEntry name (.table form (← alter dotted change path form inner)) entries
    | some (.tables items) => do
      let last ← alter dotted change path .header (items.getLastD [])
      return setEntry name (.tables (items.dropLast ++ [last])) entries
    | some _ => none

/-- Add a value under a name that is not taken. -/
def addEntry (name : String) (value : Toml) (entries : Entries) : Option Entries :=
  match entry? name entries with
  | none => some (entries ++ [(name, value)])
  | some _ => none

/-- Assign a value to a key, given as the names before its last one and that one. -/
def assign (path : List String) (name : String) (value : Toml) (form : TableForm)
    (entries : Entries) : Option Entries :=
  alter true
    (fun form entries =>
      if (form == .dotted) == path.isEmpty then none else addEntry name value entries)
    path form entries

def openTable (path : List String) (name : String) (entries : Entries) : Option Entries :=
  alter false
    (fun _ entries =>
      match entry? name entries with
      | none => some (entries ++ [(name, .table .header [])])
      | some (.table .implied inner) => some (setEntry name (.table .header inner) entries)
      | some _ => none)
    path .header entries

/-- Open one more table of a header in double brackets. -/
def openNext (path : List String) (name : String) (entries : Entries) : Option Entries :=
  alter false
    (fun _ entries =>
      match entry? name entries with
      | none => some (entries ++ [(name, .tables [[]])])
      | some (.tables items) => some (setEntry name (.tables (items ++ [[]])) entries)
      | some _ => none)
    path .header entries

end Toml

end CSurvey
