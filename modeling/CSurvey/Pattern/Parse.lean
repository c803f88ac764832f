import CSurvey.Pattern.Program
import CSurvey.Text.Blank

/-!
# Reading patterns

The text of a pattern is read from left to right into a regular expression.  Flags
that are set inside a group hold up to its end.  Only the more common properties of
characters are known, and the size of a program is an estimate: this is one of the
compilers that a search can be given.
-/

namespace CSurvey.Pattern

/-- Why a pattern is not valid. -/
inductive PatternFault where
  | endsEarly
  | unopenedGroup
  | unclosedGroup
  | lookAround
  | nothingToRepeat
  | badRepetition
  | badEscape
  | backReference
  | badCodePoint
  | unknownProperty
  | unclosedClass
  | badRange
  | badFlag
  | badGroupName
  | notText
  | nestedTooDeep
  | tooLarge
deriving DecidableEq, Repr

namespace PatternFault

def message : PatternFault → String
  | endsEarly => "the pattern ends too early"
  | unopenedGroup => "unopened group"
  | unclosedGroup => "unclosed group"
  | lookAround => "look-around is not supported"
  | nothingToRepeat => "a repetition has nothing to repeat"
  | badRepetition => "invalid repetition count"
  | badEscape => "unknown escape"
  | backReference => "back-references are not supported"
  | badCodePoint => "invalid code point"
  | unknownProperty => "unknown property"
  | unclosedClass => "unclosed character class"
  | badRange => "invalid character class range"
  | badFlag => "invalid flag"
  | badGroupName => "invalid group name"
  | notText => "the pattern can match something that is not text"
  | nestedTooDeep => "nested too deep"
  | tooLarge => "the compiled pattern is too large"

end PatternFault

structure Flags where
  ignoreCase : Bool
  multiLine : Bool
  dotAll : Bool
  swapGreed : Bool
  unicode : Bool
  verbose : Bool
  crlf : Bool
deriving DecidableEq, Repr

namespace Flags

/-- The flags in force at the start of a pattern. -/
def initial : Flags :=
  ⟨false, false, false, false, true, false, false⟩

def set? (flags : Flags) (letter : Char) (value : Bool) : Option Flags :=
  if letter = 'i' then some { flags with ignoreCase := value }
  else if letter = 'm' then some { flags with multiLine := value }
  else if letter = 's' then some { flags with dotAll := value }
  else if letter = 'U' then some { flags with swapGreed := value }
  else if letter = 'u' then some { flags with unicode := value }
  else if letter = 'x' then some { flags with verbose := value }
  else if letter = 'R' then some { flags with crlf := value }
  else none

/-- Skip what the flags make insignificant: blanks and comments in a verbose pattern.  `comment`
tells whether a comment is open. -/
def skipFrom (flags : Flags) (comment : Bool) : List Char → List Char
  | [] => []
  | c :: rest =>
    if !flags.verbose then c :: rest
    else if comment then skipFrom flags (c != '\n') rest
    else if Text.isBlank c then skipFrom flags false rest
    else if c = '#' then skipFrom flags true rest
    else c :: rest

def skip (flags : Flags) (cs : List Char) : List Char :=
  flags.skipFrom false cs

/-- The complement of a set among the code points, or among the bytes without Unicode. -/
def negate (flags : Flags) (set : CharSet) : CharSet :=
  if flags.unicode then set.complement else CharSet.diff [(0, 0xFF)] set

/-- A set with all that differs in case only, among ASCII letters without Unicode. -/
def foldAll (flags : Flags) (set : CharSet) : CharSet :=
  if flags.unicode then Property.foldCase set
  else CharSet.union set (Property.foldCase (CharSet.ascii set)).ascii

def fold (flags : Flags) (set : CharSet) : CharSet :=
  if flags.ignoreCase then flags.foldAll set else set

/-- A set as an expression; without Unicode it may hold ASCII only. -/
def setRegex (flags : Flags) (set : CharSet) : Except PatternFault Regex :=
  if !flags.unicode && !set.isAscii then .error .notText else .ok (.set set)

end Flags

/-- What an escape or a plain character stands for. -/
inductive Primitive where
  /-- A character; `byte` if it was written as a two-digit code. -/
  | literal (code : Nat) (byte : Bool)
  | chars (set : CharSet)
  | look (condition : Look)

namespace Escape

/-- Whether a character that is not a letter or digit may be escaped to stand for itself. -/
def isPlain (c : Char) : Bool :=
  c.toNat < 0x80 && !c.isAlphanum && c != '<' && c != '>'

def hexDigit? (c : Char) : Option Nat :=
  if c.isDigit then some (c.toNat - 48)
  else if 'a' ≤ c && c ≤ 'f' then some (c.toNat - 87)
  else if 'A' ≤ c && c ≤ 'F' then some (c.toNat - 55)
  else none

/-- The value of a list of hexadecimal digits, if it is a character. -/
def codePoint (digits : List Char) : Except PatternFault Nat :=
  match digits.mapM hexDigit? with
  | none => .error .badCodePoint
  | some [] => .error .badCodePoint
  | some values =>
    let code := values.foldl (fun value digit => value * 16 + digit) 0
    if code < 0xD800 || (0xDFFF < code && code < 0x110000) then .ok code
    else .error .badCodePoint

/-- A code in hexadecimal: in braces, or with a fixed number of digits. -/
def hexCode (flags : Flags) (count : Nat) (cs : List Char) :
    Except PatternFault (Primitive × List Char) :=
  match flags.skip cs with
  | [] => .error .endsEarly
  | '{' :: rest =>
    let digits := rest.takeWhile (· != '}')
    match rest.drop digits.length with
    | [] => .error .endsEarly
    | _ :: after => do
      let code ← codePoint (digits.filter (fun c => !(flags.verbose && Text.isBlank c)))
      return (.literal code false, after)
  | cs =>
    if cs.length < count then .error .endsEarly
    else do
      let code ← codePoint (cs.take count)
      return (.literal code (count == 2), cs.drop count)

def property (flags : Flags) (negated : Bool) (cs : List Char) :
    Except PatternFault (Primitive × List Char) :=
  let finish (set : Option CharSet) (negated : Bool) (after : List Char) :
      Except PatternFault (Primitive × List Char) :=
    match set with
    | none => .error .unknownProperty
    | some set =>
      if !flags.unicode then .error .notText
      else
        let folded := flags.fold set
        .ok (.chars (if negated then folded.complement else folded), after)
  match flags.skip cs with
  | [] => .error .endsEarly
  | '{' :: rest =>
    let name := rest.takeWhile (· != '}')
    match rest.drop name.length with
    | [] => .error .endsEarly
    | _ :: after =>
      let property := name.takeWhile (fun c => c != '=' && c != ':' && c != '!')
      match name.drop property.length with
      | '!' :: '=' :: value => finish (Property.valued? property value) (!negated) after
      | '=' :: value => finish (Property.valued? property value) negated after
      | ':' :: value => finish (Property.valued? property value) negated after
      | _ => finish (Property.named? name) negated after
  | '\\' :: _ => .error .badEscape
  | c :: after => finish (Property.generalCategory? (Property.normalize [c])) negated after

/-- The classes with a letter of their own. -/
def perlClass? (flags : Flags) (c : Char) : Option CharSet :=
  let digits : CharSet := if flags.unicode then Property.digit else [(48, 57)]
  let blanks : CharSet := if flags.unicode then Property.blank else [(9, 13), (32, 32)]
  let words : CharSet :=
    if flags.unicode then Property.word else [(48, 57), (65, 90), (95, 95), (97, 122)]
  if c = 'd' then some digits
  else if c = 'D' then some (flags.negate digits)
  else if c = 's' then some blanks
  else if c = 'S' then some (flags.negate blanks)
  else if c = 'w' then some words
  else if c = 'W' then some (flags.negate words)
  else none

/-- The characters with a letter of their own. -/
def control? (c : Char) : Option Nat :=
  if c = 'a' then some 7
  else if c = 'f' then some 12
  else if c = 't' then some 9
  else if c = 'n' then some 10
  else if c = 'r' then some 13
  else if c = 'v' then some 11
  else none

/-- The kind of word boundary that braces after `\b` ask for, if they begin like one. -/
def wordBoundary (flags : Flags) (cs : List Char) : Except PatternFault (Primitive × List Char) :=
  let plain : Except PatternFault (Primitive × List Char) :=
    .ok (.look (.wordBoundary flags.unicode), cs)
  match cs with
  | '{' :: rest =>
    match flags.skip rest with
    | [] => .error .endsEarly
    | c :: more =>
      if c.isAlpha || c == '-' then
        let name := (c :: more).takeWhile (fun d => d.isAlpha || d == '-')
        match (c :: more).drop name.length with
        | '}' :: after =>
          let word := String.ofList name
          if word == "start" then .ok (.look (.wordStart flags.unicode), after)
          else if word == "end" then .ok (.look (.wordEnd flags.unicode), after)
          else if word == "start-half" then .ok (.look (.wordStartHalf flags.unicode), after)
          else if word == "end-half" then .ok (.look (.wordEndHalf flags.unicode), after)
          else .error .badEscape
        | _ => .error .badEscape
      else plain
  | _ => plain

/-- What follows a backslash. -/
def read (flags : Flags) : List Char → Except PatternFault (Primitive × List Char)
  | [] => .error .endsEarly
  | c :: rest =>
    if c.isDigit then .error .backReference
    else if c = 'x' then hexCode flags 2 rest
    else if c = 'u' then hexCode flags 4 rest
    else if c = 'U' then hexCode flags 8 rest
    else if c = 'p' then property flags false rest
    else if c = 'P' then property flags true rest
    else if isPlain c then .ok (.literal c.toNat false, rest)
    else
      match perlClass? flags c, control? c with
      | some set, _ => .ok (.chars set, rest)
      | none, some code => .ok (.literal code false, rest)
      | none, none =>
        if c = 'A' then .ok (.look .start, rest)
        else if c = 'z' then .ok (.look .finish, rest)
        else if c = 'b' then wordBoundary flags rest
        else if c = 'B' then .ok (.look (.notWordBoundary flags.unicode), rest)
        else if c = '<' then .ok (.look (.wordStart flags.unicode), rest)
        else if c = '>' then .ok (.look (.wordEnd flags.unicode), rest)
        else .error .badEscape

end Escape

namespace Class

/-- How two parts of a class are combined. -/
inductive Operator where
  | inter
  | diff
  | symmDiff
deriving DecidableEq, Repr

def Operator.apply : Operator → CharSet → CharSet → CharSet
  | inter => CharSet.inter
  | diff => CharSet.diff
  | symmDiff => CharSet.symmDiff

/-- The ASCII classes that are named between colons. -/
def asciiNames : List (String × CharSet) :=
  [("alnum", [(48, 57), (65, 90), (97, 122)]), ("alpha", [(65, 90), (97, 122)]),
   ("ascii", [(0, 0x7F)]), ("blank", [(9, 9), (32, 32)]), ("cntrl", [(0, 31), (127, 127)]),
   ("digit", [(48, 57)]), ("graph", [(33, 126)]), ("lower", [(97, 122)]),
   ("print", [(32, 126)]), ("punct", [(33, 47), (58, 64), (91, 96), (123, 126)]),
   ("space", [(9, 13), (32, 32)]), ("upper", [(65, 90)]),
   ("word", [(48, 57), (65, 90), (95, 95), (97, 122)]),
   ("xdigit", [(48, 57), (65, 70), (97, 102)])]

/-- A named ASCII class after its opening bracket, if there is one. -/
def ascii? (flags : Flags) (cs : List Char) : Option (CharSet × List Char) :=
  match cs with
  | ':' :: rest =>
    let negated := rest.head? == some '^'
    let rest := if negated then rest.tail else rest
    let name := rest.takeWhile (· != ':')
    match rest.drop name.length with
    | ':' :: ']' :: after =>
      (asciiNames.find? (fun entry => entry.1 == String.ofList name)).map (fun entry =>
        let folded := flags.fold entry.2
        (if negated then flags.negate folded else folded, after))
    | _ => none
  | _ => none

/-- A single item of a class: a character or an escape. -/
def item (flags : Flags) : List Char → Except PatternFault (Primitive × List Char)
  | [] => .error .unclosedClass
  | '\\' :: rest => do
    match ← Escape.read flags rest with
    | (.look _, _) => throw .badEscape
    | found => return found
  | c :: rest => .ok (.literal c.toNat false, rest)

/-- The code of a character in a class; without Unicode it is a byte. -/
def code (flags : Flags) (code : Nat) (byte : Bool) : Except PatternFault Nat :=
  if flags.unicode || code < 0x80 || byte then .ok code else .error .notText

/-- An item of a class or a range between two. -/
def range (flags : Flags) (cs : List Char) : Except PatternFault (CharSet × List Char) := do
  let (first, rest) ← item flags cs
  let rest := flags.skip rest
  let single : Except PatternFault (CharSet × List Char) :=
    match first with
    | .literal value byte => do
      let value ← code flags value byte
      return ([(value, value)], rest)
    | .chars set => .ok (set, rest)
    | .look _ => .error .badEscape
  match rest with
  | [] => throw .unclosedClass
  | '-' :: after =>
    let after := flags.skip after
    match after with
    | [] => throw .unclosedClass
    | c :: _ =>
      if c = ']' || c = '-' then single
      else
        let (second, rest) ← item flags after
        match first, second with
        | .literal low lowByte, .literal high highByte =>
          let low ← code flags low lowByte
          let high ← code flags high highByte
          if low ≤ high then return ([(low, high)], rest) else throw .badRange
        | _, _ => throw .badRange
  | _ => single

/-- The operator that two characters stand for. -/
def operator? (first second : Char) : Option Operator :=
  if first ≠ second then none
  else if first = '&' then some .inter
  else if first = '-' then some .diff
  else if first = '~' then some .symmDiff
  else none

/-- The part of a class so far: the operand before an operator, and the set that is collected. -/
structure Progress where
  operand : Option (Operator × CharSet)
  set : CharSet

namespace Progress

def add (progress : Progress) (set : CharSet) : Progress :=
  { progress with set := CharSet.union progress.set set }

/-- The set of all that was read. -/
def total (progress : Progress) (flags : Flags) : CharSet :=
  match progress.operand with
  | none => progress.set
  | some (operator, operand) => operator.apply (flags.fold operand) (flags.fold progress.set)

end Progress

/-- The dashes and the bracket that stand for themselves right after the opening of a class. -/
def leading (flags : Flags) (cs : List Char) : CharSet × List Char :=
  let cs := flags.skip cs
  let dashes := cs.takeWhile (· == '-')
  let rest := flags.skip (cs.drop dashes.length)
  if !dashes.isEmpty then ([(45, 45)], rest)
  else if rest.head? == some ']' then ([(93, 93)], flags.skip rest.tail)
  else ([], rest)

mutual

/-- A class after its opening bracket, with the depth to which classes are nested in it. -/
def read (flags : Flags) : Nat → List Char → Except PatternFault ((CharSet × Nat) × List Char)
  | 0, _ => .error .unclosedClass
  | fuel + 1, cs => do
    let cs := flags.skip cs
    let negated := cs.head? == some '^'
    let (set, rest) := leading flags (if negated then cs.tail else cs)
    if rest.isEmpty then throw .unclosedClass
    let ((progress, depth), rest) ← items flags fuel ⟨none, set⟩ 0 rest
    let folded := flags.fold (progress.total flags)
    return ((if negated then flags.negate folded else folded, depth + 1), rest)

/-- The items of a class up to its closing bracket. -/
def items (flags : Flags) :
    Nat → Progress → Nat → List Char → Except PatternFault ((Progress × Nat) × List Char)
  | 0, _, _, _ => .error .unclosedClass
  | fuel + 1, progress, depth, cs =>
    match flags.skip cs with
    | [] => .error .unclosedClass
    | ']' :: rest => .ok ((progress, depth), rest)
    | '[' :: rest =>
      match ascii? flags rest with
      | some (set, rest) => items flags fuel (progress.add set) depth rest
      | none => do
        let ((set, inner), rest) ← read flags fuel rest
        items flags fuel (progress.add set) (max depth inner) rest
    | c :: rest =>
      match rest.head?.bind (operator? c) with
      | some operator =>
        items flags fuel ⟨some (operator, progress.total flags), []⟩ depth rest.tail
      | none => do
        let (set, rest) ← range flags (c :: rest)
        items flags fuel (progress.add set) depth rest

end

end Class

/-- Part of a pattern that has been read: its expression, the depth to which it is nested, and
whether a repetition may follow it. -/
structure Piece where
  regex : Regex
  depth : Nat
  repeatable : Bool

namespace Piece

/-- Pieces one after another. -/
def concat (pieces : List Piece) : Piece :=
  match pieces with
  | [single] => single
  | _ =>
    ⟨Regex.catAll (pieces.map Piece.regex), (pieces.map Piece.depth).foldl max 0 + 1, true⟩

def either (pieces : List Piece) : Piece :=
  match pieces with
  | [single] => single
  | _ =>
    ⟨Regex.altAll (pieces.map Piece.regex), (pieces.map Piece.depth).foldl max 0 + 1, true⟩

/-- A character; its variants if case is ignored. -/
def literal (flags : Flags) (code : Nat) (byte : Bool) : Except PatternFault Piece :=
  if !flags.unicode && byte && 0x80 ≤ code then .error .notText
  else if flags.ignoreCase && (flags.unicode || code < 0x80) then
    .ok ⟨.set (flags.foldAll [(code, code)]), 0, true⟩
  else .ok ⟨.set [(code, code)], 0, true⟩

def ofPrimitive (flags : Flags) : Primitive → Except PatternFault Piece
  | .literal code byte => literal flags code byte
  | .chars set => do return ⟨← flags.setRegex set, 0, true⟩
  | .look condition => .ok ⟨.look condition, 0, true⟩

end Piece

namespace Repetition

/-- The digits at the front as a number, with the blanks around them skipped. -/
def number (flags : Flags) (cs : List Char) : Except PatternFault (Nat × List Char) :=
  let cs := cs.dropWhile Text.isBlank
  let digits := cs.takeWhile Char.isDigit
  let value := digits.foldl (fun value c => value * 10 + (c.toNat - 48)) 0
  if digits.isEmpty || Nat.pow 2 32 ≤ value then .error .badRepetition
  else .ok (value, flags.skip ((cs.drop digits.length).dropWhile Text.isBlank))

/-- The bounds of a repetition after its opening brace, up to and with its closing one. -/
def bounds (flags : Flags) (cs : List Char) :
    Except PatternFault ((Nat × Option Nat) × List Char) := do
  let cs := flags.skip cs
  if cs.isEmpty then throw .badRepetition
  let (low, rest) ← number flags cs
  match rest with
  | '}' :: after => return ((low, some low), after)
  | ',' :: rest =>
    match flags.skip rest with
    | '}' :: after => return ((low, none), after)
    | rest =>
      let (high, rest) ← number flags rest
      match rest with
      | '}' :: after =>
        if low ≤ high then return ((low, some high), after) else throw .badRepetition
      | _ => throw .badRepetition
  | _ => throw .badRepetition

/-- Repeat the last of the pieces, latest first; a question mark after the repetition turns its
preference around. -/
def apply (flags : Flags) (low : Nat) (high : Option Nat) (pieces : List Piece)
    (cs : List Char) : Except PatternFault ((List Piece) × List Char) :=
  match pieces with
  | [] => .error .nothingToRepeat
  | last :: before =>
    if last.repeatable then
      let lazy := cs.head? == some '?'
      let greedy := !lazy != flags.swapGreed
      .ok (⟨.rounds last.regex low high greedy, last.depth + 1, true⟩ :: before,
        if lazy then cs.tail else cs)
    else .error .nothingToRepeat

end Repetition

namespace Group

/-- Flags up to a colon or closing parenthesis, which is returned; `seen` holds the letters read
before, and `negative` tells whether a dash was. -/
def flags (current : Flags) (seen : List Char) (negative dangling : Bool) :
    List Char → Except PatternFault (Flags × Char × Bool × List Char)
  | [] => .error .endsEarly
  | c :: rest =>
    if c = ':' || c = ')' then
      if dangling then .error .badFlag else .ok (current, c, seen.isEmpty && !negative, rest)
    else if c = '-' then
      if negative then .error .badFlag else flags current seen true true rest
    else
      match current.set? c (!negative) with
      | none => .error .badFlag
      | some next =>
        if seen.contains c then .error .badFlag
        else flags next (c :: seen) negative false rest

/-- Whether a character may stand in the name of a group. -/
def isNameChar (first : Bool) (c : Char) : Bool :=
  if first then c == '_' || Property.alphabetic.contains c.toNat
  else
    c == '_' || c == '.' || c == '[' || c == ']' || Property.alphabetic.contains c.toNat ||
      (Property.unionOf ["nd", "nl", "no"]).contains c.toNat

/-- The name of a group up to its closing mark, different from the names before it. -/
def name (known : List (List Char)) (cs : List Char) :
    Except PatternFault (List Char × List Char) :=
  let text := cs.takeWhile (· != '>')
  match text, cs.drop text.length with
  | [], _ => .error .badGroupName
  | _, [] => .error .badGroupName
  | first :: more, _ :: after =>
    if isNameChar true first && more.all (isNameChar false) && !known.contains text then
      .ok (text, after)
    else .error .badGroupName

/-- How a group begins. -/
inductive Opening where
  /-- Flags for the rest of the group around them. -/
  | setFlags (flags : Flags)
  /-- A group with its flags and its name, if it has one. -/
  | group (flags : Flags) (name : Option (List Char))

/-- The beginning of a group after its parenthesis. -/
def opening (current : Flags) (known : List (List Char)) (cs : List Char) :
    Except PatternFault (Opening × List Char) :=
  match current.skip cs with
  | '?' :: '=' :: _ => .error .lookAround
  | '?' :: '!' :: _ => .error .lookAround
  | '?' :: '<' :: '=' :: _ => .error .lookAround
  | '?' :: '<' :: '!' :: _ => .error .lookAround
  | '?' :: 'P' :: '<' :: rest => do
    let (label, after) ← name known rest
    return (.group current (some label), after)
  | '?' :: '<' :: rest => do
    let (label, after) ← name known rest
    return (.group current (some label), after)
  | '?' :: rest => do
    let rest := current.skip rest
    if rest.isEmpty then throw .unclosedGroup
    let (next, mark, none?, after) ← flags current [] false false rest
    if mark = ')' then
      if none? then throw .nothingToRepeat else return (.setFlags next, after)
    else return (.group next none, after)
  | cs => .ok (.group current none, cs)

end Group

/-- The flags and group names at a place of a pattern. -/
structure Context where
  flags : Flags
  names : List (List Char)

/-- The expression for a dot. -/
def dot (flags : Flags) : Except PatternFault Regex :=
  if !flags.unicode then .error .notText
  else if flags.dotAll then .ok (.set CharSet.all)
  else if flags.crlf then .ok (.set (CharSet.complement [(10, 10), (13, 13)]))
  else .ok (.set (CharSet.complement [(10, 10)]))

/-- The condition for `^`. -/
def caret (flags : Flags) : Look :=
  if !flags.multiLine then .start else if flags.crlf then .crlfLineStart else .lineStart

/-- The condition for `$`. -/
def dollar (flags : Flags) : Look :=
  if !flags.multiLine then .finish else if flags.crlf then .crlfLineEnd else .lineEnd

/-- Read alternatives up to the end of the pattern, or of the group that is `inside`.  `pieces`
holds the pieces of the alternative that is being read and `branches` the alternatives before it,
both latest first. -/
def alternatives (inside : Bool) :
    Nat → Context → List Piece → List Piece → List Char →
      Except PatternFault (Piece × List (List Char) × List Char)
  | 0, _, _, _, _ => .error .nestedTooDeep
  | fuel + 1, context, pieces, branches, cs =>
    let flags := context.flags
    let finish (rest : List Char) : Except PatternFault (Piece × List (List Char) × List Char) :=
      .ok (Piece.either (Piece.concat pieces.reverse :: branches).reverse, context.names, rest)
    let go (pieces : List Piece) (rest : List Char) :=
      alternatives inside fuel context pieces branches rest
    match flags.skip cs with
    | [] => if inside then .error .unclosedGroup else finish []
    | ')' :: rest => if inside then finish rest else .error .unopenedGroup
    | '|' :: rest =>
      alternatives inside fuel context [] (Piece.concat pieces.reverse :: branches) rest
    | '(' :: rest => do
      match ← Group.opening flags context.names rest with
      | (.setFlags next, rest) =>
        alternatives inside fuel { context with flags := next } (⟨.empty, 0, false⟩ :: pieces)
          branches rest
      | (.group next name, rest) =>
        let names := match name with
          | some label => label :: context.names
          | none => context.names
        let (inner, names, rest) ← alternatives true fuel ⟨next, names⟩ [] [] rest
        alternatives inside fuel { context with names }
          (⟨inner.regex, inner.depth + 1, true⟩ :: pieces) branches rest
    | '[' :: rest => do
      let ((set, depth), rest) ← Class.read flags (rest.length + 1) rest
      go (⟨← flags.setRegex set, depth, true⟩ :: pieces) rest
    | '*' :: rest => do
      let (pieces, rest) ← Repetition.apply flags 0 none pieces rest
      go pieces rest
    | '+' :: rest => do
      let (pieces, rest) ← Repetition.apply flags 1 none pieces rest
      go pieces rest
    | '?' :: rest => do
      let (pieces, rest) ← Repetition.apply flags 0 (some 1) pieces rest
      go pieces rest
    | '{' :: rest => do
      if !(pieces.head?.any Piece.repeatable) then throw .nothingToRepeat
      let ((low, high), rest) ← Repetition.bounds flags rest
      let (pieces, rest) ← Repetition.apply flags low high pieces rest
      go pieces rest
    | '.' :: rest => do go (⟨← dot flags, 0, true⟩ :: pieces) rest
    | '^' :: rest => go (⟨.look (caret flags), 0, true⟩ :: pieces) rest
    | '$' :: rest => go (⟨.look (dollar flags), 0, true⟩ :: pieces) rest
    | '\\' :: rest => do
      let (primitive, rest) ← Escape.read flags rest
      go ((← Piece.ofPrimitive flags primitive) :: pieces) rest
    | c :: rest => do go ((← Piece.literal flags c.toNat false) :: pieces) rest

/-- The depth to which a pattern may be nested. -/
def depthLimit : Nat :=
  250

/-- The regular expression of a pattern. -/
def parse (pattern : String) : Except PatternFault Regex := do
  let cs := pattern.toList
  let (piece, _, _) ← alternatives false (cs.length + 1) ⟨Flags.initial, []⟩ [] [] cs
  if depthLimit < piece.depth then throw .nestedTooDeep
  if Regex.memoryLimit < piece.regex.memory then throw .tooLarge
  return piece.regex

def compile (pattern : String) : Except PatternFault Program := do
  return Program.ofRegex (← parse pattern)

def compiler : PatternCompiler := fun pattern =>
  match compile pattern with
  | .ok program => .ok program.compiled
  | .error fault => .error fault.message

end CSurvey.Pattern
