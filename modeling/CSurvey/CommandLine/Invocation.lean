import CSurvey.CommandLine.Argument

/-!
# Invocations

What a command line asks for.  Two options belong to all commands and may stand
before the command as well as after it.
-/

namespace CSurvey.CommandLine

inductive Command where
  | chunk (file : String) (maxLines : Option Nat)
  | function (file : String) (name : Option String)
  | deps (file : String)
  | search (file pattern kind : String) (literal : Bool)
  | diagram (file : String) (kind : Option String) (maxNodes : Option Nat) (dot : Bool)
      (output : Option String)
  | refactor (file : String) (name : Option String)
  | audit (file : String)
  | report (file : String) (output : Option String)
  | recommend (words : List String)
  | scan (path : String) (exclude : List String)
deriving DecidableEq, Repr

structure Invocation where
  json : Bool
  settingsPath : Option String
  command : Command
deriving DecidableEq, Repr

namespace Command

def file? : Command → Option String
  | chunk file _ | function file _ | deps file | search file .. | diagram file .. | refactor file _
  | audit file | report file _ => some file
  | recommend _ | scan .. => none

/-- The file that a command writes. -/
def output? : Command → Option String
  | diagram _ _ _ _ output | report _ output => output
  | _ => none

end Command

/-- The options that belong to all commands. -/
def commonOptions : List (String × Arity) :=
  [("json", .flag), ("config", .one .path)]

def commandNames : List String :=
  ["chunk", "function", "deps", "search", "diagram", "refactor", "audit", "report", "recommend",
   "scan"]

/-- The options and words of a command. -/
def grammarOf (name : String) : Grammar :=
  let own : List (String × Arity) := match name with
    | "chunk" => [("max-lines", .one .count)]
    | "function" | "refactor" => [("name", .one .text)]
    | "search" => [("type", .one .text), ("literal", .flag)]
    | "diagram" =>
      [("kind", .one .text), ("max-nodes", .one .count), ("dot", .flag), ("output", .one .text)]
    | "report" => [("output", .one .text)]
    | "scan" => [("exclude", .many .text)]
    | _ => []
  let words : WordKinds := match name with
    | "search" => .each [.path, .text]
    | "recommend" => .all .text
    | _ => .each [.path]
  ⟨commonOptions ++ own, words⟩

/-- The command of a name with what its arguments give. -/
def Command.ofMatches? (name : String) (found : Matches) : Option Command :=
  match name, found.words with
  | "chunk", [file] => some (.chunk file (found.countOf? "max-lines"))
  | "function", [file] => some (.function file (found.value? "name"))
  | "deps", [file] => some (.deps file)
  | "search", [file, pattern] =>
    some (.search file pattern ((found.value? "type").getD "any") (found.has "literal"))
  | "diagram", [file] =>
    some (.diagram file (found.value? "kind") (found.countOf? "max-nodes") (found.has "dot")
      (found.value? "output"))
  | "refactor", [file] => some (.refactor file (found.value? "name"))
  | "audit", [file] => some (.audit file)
  | "report", [file] => some (.report file (found.value? "output"))
  | "recommend", words => some (.recommend words)
  | "scan", [] => some (.scan "." (found.valuesOf "exclude"))
  | "scan", [path] => some (.scan path (found.valuesOf "exclude"))
  | _, _ => none

/-- The options before the command. -/
def leading : Grammar :=
  ⟨commonOptions, .each []⟩

/-- Read the arguments up to the command, then those of the command. -/
def parseAfter (found : Matches) (waiting : Option Waiting) :
    List String → Except Stop Invocation
  | [] => .error .invalid
  | text :: rest =>
    if text.toList.take 1 == ['-'] && text != "-" then
      if Grammar.isOwed waiting || text == "--" then .error .invalid
      else if text.toList.take 2 == ['-', '-'] then
        if text == "--version" then .error .help
        else
          match leading.addOption found text with
          | .ok (found, waiting) => parseAfter found waiting rest
          | .error stop => .error stop
      else
        let letter := (text.toList.drop 1).head?
        .error (if letter == some 'h' || letter == some 'V' then .help else .invalid)
    else
      match waiting with
      | some ⟨name, .one kind, _⟩ =>
        match Grammar.addValue found name kind text with
        | .ok found => parseAfter found none rest
        | .error stop => .error stop
      | _ =>
        if text == "help" then
          .error (if rest.isEmpty || (rest.length == 1 && rest.all commandNames.contains) then .help
            else .invalid)
        else if commandNames.contains text then
          match (grammarOf text).read Matches.empty none rest with
          | .error stop => .error stop
          | .ok inner =>
            match Command.ofMatches? text inner with
            | none => .error .invalid
            | some command =>
              .ok ⟨found.has "json" || inner.has "json",
                inner.value? "config" <|> found.value? "config", command⟩
        else .error .invalid

/-- The invocation that arguments describe. -/
def parse (arguments : List String) : Except Stop Invocation :=
  parseAfter Matches.empty none arguments

end CSurvey.CommandLine
