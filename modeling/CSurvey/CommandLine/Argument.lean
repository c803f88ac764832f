import CSurvey.Sum

/-!
# Command-line arguments

A grammar names the options and says how many words may stand beside them.  An
option's value follows it, or an equals sign; two dashes on their own end the
options; and an option that takes one value, or none, is given once.
-/

namespace CSurvey.CommandLine

/-- What a value has to look like. -/
inductive ValueKind where
  | text
  /-- Any text but the empty one. -/
  | path
  /-- A 64-bit count, perhaps with a plus sign. -/
  | count
deriving DecidableEq, Repr

/-- The count that digits spell, if it fits 64 bits. -/
def count? (text : String) : Option Nat :=
  let digits := match text.toList with
    | '+' :: rest => rest
    | cs => cs
  let value := digits.foldl (fun value c => value * 10 + (c.toNat - 48)) 0
  if digits.isEmpty || !digits.all Char.isDigit || wordSize ≤ value then none else some value

/-- Whether a value looks as it has to. -/
def ValueKind.accepts : ValueKind → String → Bool
  | text, _ => true
  | path, value => !value.isEmpty
  | count, value => (count? value).isSome

/-- How many values an option takes. -/
inductive Arity where
  | flag
  | one (kind : ValueKind)
  /-- At least one, up to the next option. -/
  | many (kind : ValueKind)
deriving DecidableEq, Repr

/-- The kinds of the words beside the options: of each one in turn, or of all of them. -/
inductive WordKinds where
  | each (kinds : List ValueKind)
  | all (kind : ValueKind)
deriving DecidableEq, Repr

structure Grammar where
  options : List (String × Arity)
  words : WordKinds
deriving DecidableEq, Repr

namespace Grammar

/-- What an option of that name takes. -/
def arity? (grammar : Grammar) (name : String) : Option Arity :=
  (grammar.options.find? (fun option => option.1 == name)).map (·.2)

def wordKind? (grammar : Grammar) (index : Nat) : Option ValueKind :=
  match grammar.words with
  | .each kinds => kinds[index]?
  | .all kind => some kind

end Grammar

/-- Why arguments are not carried out. -/
inductive Stop where
  /-- They ask for help. -/
  | help
  | invalid
deriving DecidableEq, Repr

/-- The options and words that arguments give, in order. -/
structure Matches where
  flags : List String
  values : List (String × String)
  words : List String
deriving DecidableEq, Repr

namespace Matches

def empty : Matches :=
  ⟨[], [], []⟩

/-- Whether an option has been given. -/
def has (found : Matches) (name : String) : Bool :=
  found.flags.contains name || found.values.any (fun value => value.1 == name)

def value? (found : Matches) (name : String) : Option String :=
  (found.values.find? (fun value => value.1 == name)).map (·.2)

/-- All values of an option. -/
def valuesOf (found : Matches) (name : String) : List String :=
  (found.values.filter (fun value => value.1 == name)).map (·.2)

def countOf? (found : Matches) (name : String) : Option Nat :=
  (found.value? name).bind count?

end Matches

/-- An option whose values may follow. -/
structure Waiting where
  name : String
  arity : Arity
  /-- Whether it has a value already. -/
  served : Bool
deriving DecidableEq, Repr

/-- The name and value of an option that is written with two dashes. -/
def splitOption (text : String) : String × Option String :=
  let cs := text.toList.drop 2
  match cs.dropWhile (fun c => c != '=') with
  | [] => (String.ofList cs, none)
  | _ :: value => (String.ofList (cs.takeWhile (fun c => c != '=')), some (String.ofList value))

namespace Grammar

def addValue (found : Matches) (name : String) (kind : ValueKind) (value : String) :
    Except Stop Matches :=
  if kind.accepts value then .ok { found with values := found.values ++ [(name, value)] }
  else .error .invalid

/-- Add an option that is written with two dashes; it may wait for values. -/
def addOption (grammar : Grammar) (found : Matches) (text : String) :
    Except Stop (Matches × Option Waiting) :=
  let (name, value) := splitOption text
  match grammar.arity? name, value with
  | none, none => .error (if name == "help" then .help else .invalid)
  | none, some _ => .error .invalid
  | some .flag, none =>
    if found.has name then .error .invalid
    else .ok ({ found with flags := found.flags ++ [name] }, none)
  | some .flag, some _ => .error .invalid
  | some (.one kind), some value =>
    if found.has name then .error .invalid
    else (addValue found name kind value).map (fun found => (found, none))
  | some (.one kind), none =>
    if found.has name then .error .invalid
    else .ok (found, some ⟨name, .one kind, false⟩)
  | some (.many kind), some value =>
    (addValue found name kind value).map (fun found => (found, none))
  | some (.many kind), none => .ok (found, some ⟨name, .many kind, false⟩)

/-- Add a word beside the options. -/
def addWord (grammar : Grammar) (found : Matches) (word : String) : Except Stop Matches :=
  match grammar.wordKind? found.words.length with
  | some kind =>
    if kind.accepts word then .ok { found with words := found.words ++ [word] }
    else .error .invalid
  | none => .error .invalid

/-- Add words that nothing can be taken for options. -/
def addWords (grammar : Grammar) (found : Matches) (words : List String) : Except Stop Matches :=
  words.foldlM grammar.addWord found

/-- Whether an option still lacks its value. -/
def isOwed (waiting : Option Waiting) : Bool :=
  waiting.any (fun option => !option.served)

/-- Read arguments after some that gave `found` and left an option waiting. -/
def read (grammar : Grammar) (found : Matches) (waiting : Option Waiting) :
    List String → Except Stop Matches
  | [] => if isOwed waiting then .error .invalid else .ok found
  | text :: rest =>
    if text.toList.take 1 == ['-'] && text != "-" then
      if isOwed waiting then .error .invalid
      else if text == "--" then grammar.addWords found rest
      else if text.toList.take 2 == ['-', '-'] then
        match grammar.addOption found text with
        | .ok (found, waiting) => grammar.read found waiting rest
        | .error stop => .error stop
      else .error (if text.toList.take 2 == ['-', 'h'] then .help else .invalid)
    else
      match waiting with
      | some ⟨name, .one kind, _⟩ =>
        match addValue found name kind text with
        | .ok found => grammar.read found none rest
        | .error stop => .error stop
      | some ⟨name, .many kind, _⟩ =>
        match addValue found name kind text with
        | .ok found => grammar.read found (some ⟨name, .many kind, true⟩) rest
        | .error stop => .error stop
      | _ =>
        match grammar.addWord found text with
        | .ok found => grammar.read found none rest
        | .error stop => .error stop

end Grammar

end CSurvey.CommandLine
