import CSurvey.Toml.Number
import CSurvey.Toml.Text
import CSurvey.Toml.Value

/-!
# Reading TOML

A document is a sequence of lines: a header, an assignment, a comment or nothing.
-/

namespace CSurvey.Toml

/-- The number of arrays and inline tables that may stand inside each other. -/
def maxNesting : Nat :=
  79

/-- A word that stands for a truth value. -/
def bool? : List Char → Option (Toml × List Char)
  | 't' :: 'r' :: 'u' :: 'e' :: rest => some (.bool true, rest)
  | 'f' :: 'a' :: 'l' :: 's' :: 'e' :: rest => some (.bool false, rest)
  | _ => none

mutual

/-- The value at the front.  `fuel` bounds the number of steps, and `nesting` the number of brackets
that may still be opened. -/
def value? (fuel nesting : Nat) (cs : List Char) : Option (Toml × List Char) :=
  match fuel with
  | 0 => none
  | fuel + 1 =>
    match cs with
    | [] => none
    | c :: rest =>
      if c == '"' || c == '\'' then (string? cs).map (fun (text, left) => (.str text, left))
      else if c == '[' then
        if nesting = 0 then none else items fuel (nesting - 1) [] (skipLines rest.length rest)
      else if c == '\x7b' then
        if nesting = 0 then none
        else
          match skipSpaces rest with
          | '\x7d' :: left => some (.table .inline [], left)
          | rest => pairs fuel (nesting - 1) [] rest
      else bool? cs <|> number? cs

/-- The items of an array up to its closing bracket. -/
def items (fuel nesting : Nat) (done : List Toml) (cs : List Char) : Option (Toml × List Char) :=
  match fuel with
  | 0 => none
  | fuel + 1 =>
    match cs with
    | ']' :: left => some (.array done.reverse, left)
    | _ => do
      let (item, rest) ← value? fuel nesting cs
      match skipLines rest.length rest with
      | ',' :: rest => items fuel nesting (item :: done) (skipLines rest.length rest)
      | ']' :: left => some (.array (item :: done).reverse, left)
      | _ => none

/-- The assignments of an inline table up to its closing brace. -/
def pairs (fuel nesting : Nat) (done : Entries) (cs : List Char) : Option (Toml × List Char) :=
  match fuel with
  | 0 => none
  | fuel + 1 => do
    let (path, name, rest) ← key? cs.length [] cs
    let (value, rest) ← value? fuel nesting (skipSpaces (← mark? '=' rest))
    let done ← assign path name value .inline done
    match skipSpaces rest with
    | ',' :: rest => pairs fuel nesting done rest
    | '\x7d' :: left => some (.table .inline done, left)
    | _ => none

end

/-- A line of a document; a path is given as its names before the last and that one. -/
inductive Statement where
  | blank
  | header (path : List String) (name : String)
  | nextHeader (path : List String) (name : String)
  | assignment (path : List String) (name : String) (value : Toml)

/-- The statement at the front. -/
def statement? (cs : List Char) : Option (Statement × List Char) :=
  match cs with
  | '[' :: '[' :: rest => do
    let (path, name, rest) ← key? cs.length [] rest
    return (.nextHeader path name, ← mark? ']' (← mark? ']' rest))
  | '[' :: rest => do
    let (path, name, rest) ← key? cs.length [] rest
    return (.header path name, ← mark? ']' rest)
  | c :: _ =>
    if c == '#' || c == '\n' || c == '\r' then some (.blank, cs)
    else do
      let (path, name, rest) ← key? cs.length [] cs
      let rest ← mark? '=' rest
      let (value, rest) ← value? (2 * rest.length + 2) maxNesting (skipSpaces rest)
      return (.assignment path name value, rest)
  | [] => some (.blank, [])

/-- A document as far as it has been read: its tables and the path of the table whose header came
last. -/
structure Reading where
  root : Entries
  current : List String

def Reading.add (reading : Reading) : Statement → Option Reading
  | .blank => some reading
  | .header path name => do
    return ⟨← openTable path name reading.root, path ++ [name]⟩
  | .nextHeader path name => do
    return ⟨← openNext path name reading.root, path ++ [name]⟩
  | .assignment path name value => do
    let root ← alter false (assign path name value) reading.current .header reading.root
    return { reading with root }

/-- The lines of a document; `fuel` bounds their number. -/
def document (fuel : Nat) (reading : Reading) (cs : List Char) : Option Entries :=
  match fuel with
  | 0 => none
  | fuel + 1 => do
    let (statement, rest) ← statement? (skipSpaces cs)
    let reading ← reading.add statement
    match skipComment (skipSpaces rest) with
    | [] => some reading.root
    | rest => document fuel reading (← newline? rest)

def parse? (text : String) : Option Toml :=
  let cs := text.toList
  let cs := if cs.head? == some '\uFEFF' then cs.tail else cs
  (document (cs.length + 1) ⟨[], []⟩ cs).map (.table .header)

end CSurvey.Toml
