import CSurvey.Pattern.Property
import CSurvey.Pattern.Regex
import CSurvey.Search.Query

/-!
# Pattern programs

A regular expression is compiled to a list of instructions, which threads run
through in step with the text.  At each place the threads stand in the order of
preference, and a thread that reaches an instruction another one has reached
before is dropped.  A match ends all threads that are less preferred.
-/

namespace CSurvey.Pattern

/-- An instruction; targets are counted from the instruction itself. -/
inductive Instruction where
  /-- Take a character of the set. -/
  | take (chars : CharSet)
  /-- Go on at both targets, the first preferred. -/
  | fork (first second : Int)
  | goto (target : Int)
  /-- Go on if the condition holds. -/
  | check (condition : Look)
  | accept
deriving DecidableEq, Repr

/-- The instructions of a pattern; a thread begins at the first. -/
structure Program where
  code : Array Instruction

namespace Program

/-- A fork between going on with rounds and leaving them. -/
def choose (greedy : Bool) (again leave : Int) : Instruction :=
  if greedy then .fork again leave else .fork leave again

/-- Up to `count` rounds of a body, each of which may leave them all instead. -/
def optionalRounds (body : List Instruction) (greedy : Bool) : Nat → List Instruction
  | 0 => []
  | count + 1 =>
    choose greedy 1 ((count + 1) * (body.length + 1) : Nat) ::
      (body ++ optionalRounds body greedy count)

/-- Any number of rounds of a body, at least one. -/
def someRounds (body : List Instruction) (greedy : Bool) : List Instruction :=
  body ++ [choose greedy (-Int.ofNat body.length) 1]

/-- Any number of rounds of a body.  A body that may match without taking a character is entered
once at most before it is left. -/
def anyRounds (body : List Instruction) (nullable greedy : Bool) : List Instruction :=
  let leave : Int := Int.ofNat body.length + 2
  if nullable then choose greedy 1 leave :: someRounds body greedy
  else choose greedy 1 leave :: (body ++ [.goto (-Int.ofNat (body.length + 1))])

/-- The instructions of an expression; a match leaves them at their end. -/
def compile : Regex → List Instruction
  | .empty => []
  | .look condition => [.check condition]
  | .set chars => [.take chars]
  | .cat first second => compile first ++ compile second
  | .alt first second =>
    let front := compile first
    let back := compile second
    .fork 1 (Int.ofNat front.length + 2) ::
      (front ++ .goto (Int.ofNat back.length + 1) :: back)
  | .rounds inner low high greedy =>
    let body := compile inner
    match high, low with
    | some high, low =>
      (List.replicate low body).flatten ++ optionalRounds body greedy (high - low)
    | none, 0 => anyRounds body inner.isNullable greedy
    | none, low + 1 => (List.replicate low body).flatten ++ someRounds body greedy

/-- The program of an expression. -/
def ofRegex (regex : Regex) : Program :=
  ⟨(compile regex ++ [Instruction.accept]).toArray⟩

end Program

/-- Whether a character belongs to a word. -/
def isWordChar (unicode : Bool) (c : Char) : Bool :=
  if c.toNat < 0x80 then c.isAlphanum || c == '_'
  else unicode && Property.word.contains c.toNat

/-- Whether a condition holds between two characters, either of which may be missing. -/
def Look.holds (condition : Look) (before after : Option Char) : Bool :=
  let wordBefore (unicode : Bool) := before.any (isWordChar unicode)
  let wordAfter (unicode : Bool) := after.any (isWordChar unicode)
  match condition with
  | .start => before.isNone
  | .finish => after.isNone
  | .lineStart => before.isNone || before == some '\n'
  | .lineEnd => after.isNone || after == some '\n'
  | .crlfLineStart =>
    before.isNone || before == some '\n' || (before == some '\r' && after != some '\n')
  | .crlfLineEnd =>
    after.isNone || after == some '\r' || (after == some '\n' && before != some '\r')
  | .wordBoundary unicode => wordBefore unicode != wordAfter unicode
  | .notWordBoundary unicode => wordBefore unicode == wordAfter unicode
  | .wordStart unicode => !wordBefore unicode && wordAfter unicode
  | .wordEnd unicode => wordBefore unicode && !wordAfter unicode
  | .wordStartHalf unicode => !wordBefore unicode
  | .wordEndHalf unicode => !wordAfter unicode

namespace Program

/-- A thread: the instruction it stands at, and the number of characters before its start. -/
abbrev Thread :=
  Nat × Nat

/-- The threads at one place that take a character or accept, most preferred last, and which
instructions have been reached. -/
structure Front where
  threads : List Thread
  reached : Array Bool

/-- Follow a thread to the instructions that take a character or accept.  `fuel` bounds the number
of instructions passed, each of which is reached for the first time. -/
def follow (program : Program) (before after : Option Char) :
    Nat → Thread → Front → Front
  | 0, _, front => front
  | fuel + 1, (place, start), front =>
    if front.reached.getD place true then front
    else
      let front := { front with reached := front.reached.setIfInBounds place true }
      match program.code[place]? with
      | none => front
      | some (.goto target) =>
        program.follow before after fuel ((place + target).toNat, start) front
      | some (.fork first second) =>
        program.follow before after fuel ((place + second).toNat, start)
          (program.follow before after fuel ((place + first).toNat, start) front)
      | some (.check condition) =>
        if condition.holds before after then
          program.follow before after fuel (place + 1, start) front
        else front
      | some _ => { front with threads := (place, start) :: front.threads }

/-- The threads at a place, in the order of preference, that some threads lead to. -/
def advance (program : Program) (before after : Option Char) (threads : List Thread) :
    List Thread :=
  let size := program.code.size
  let front := threads.foldl (fun front thread =>
    program.follow before after (size + 1) thread front) ⟨[], Array.replicate size false⟩
  front.threads.reverse

def accepts (program : Program) (thread : Thread) : Bool :=
  program.code[thread.1]? == some .accept

/-- The threads that take a character, moved past it. -/
def taking (program : Program) (c : Char) (threads : List Thread) : List Thread :=
  threads.filterMap (fun (place, start) =>
    match program.code[place]? with
    | some (.take chars) => if chars.contains c.toNat then some (place + 1, start) else none
    | _ => none)

/-- The threads that stand at a place and are preferred to the match found there, if one is, and
the match found so far.  Until a match is found, a new thread begins at each place. -/
def settle (program : Program) (found : Option (Nat × Nat)) (threads : List Thread)
    (passed : Nat) (before after : Option Char) : List Thread × Option (Nat × Nat) :=
  let all := if found.isNone then threads ++ [(0, passed)] else threads
  let ready := program.advance before after all
  let preferred := ready.takeWhile (fun thread => !program.accepts thread)
  match ready.drop preferred.length with
  | (_, start) :: _ => (preferred, some (start, passed))
  | [] => (preferred, found)

/-- Run threads through a text.  `passed` characters came before, the last of which is `before`,
and `found` is the most preferred match so far, as the numbers of characters before its start and
its end. -/
def run (program : Program) (found : Option (Nat × Nat)) (threads : List Thread)
    (passed : Nat) (before : Option Char) : List Char → Option (Nat × Nat)
  | [] => (program.settle found threads passed before none).2
  | c :: rest =>
    let (preferred, found) := program.settle found threads passed before (some c)
    let threads := program.taking c preferred
    if threads.isEmpty && found.isSome then found
    else program.run found threads (passed + 1) (some c) rest

/-- The first match at or after the front of `cs`, as the numbers of characters before its start
and its end; the character before the front is `before`. -/
def find? (program : Program) (before : Option Char) (cs : List Char) : Option (Nat × Nat) :=
  program.run none [] 0 before cs

/-- Whether the program matches somewhere in a text. -/
def isMatch (program : Program) (cs : List Char) : Bool :=
  (program.find? none cs).isSome

/-- The matches in a text one after another.  A match without characters is skipped when the match
before it ends there.  `gap` holds the characters since that match, latest first. -/
def hitsFrom (program : Program) :
    Nat → (gap : List Char) → (before : Option Char) → (justEnded : Bool) → List Char → List Hit
  | 0, _, _, _, _ => []
  | fuel + 1, gap, before, justEnded, cs =>
    match program.find? before cs with
    | none => []
    | some (start, stop) =>
      if stop = 0 && justEnded then
        match cs with
        | [] => []
        | c :: rest => hitsFrom program fuel (c :: gap) (some c) false rest
      else
        let text := (cs.take stop).drop start
        let passed := cs.take stop
        ⟨gap.reverse ++ cs.take start, text⟩ ::
          hitsFrom program fuel [] (passed.getLast?.or before) true (cs.drop stop)

/-- All matches in a text, in order. -/
def hits (program : Program) (cs : List Char) : List Hit :=
  program.hitsFrom (2 * cs.length + 2) [] none false cs

/-- What searches use of a program. -/
def compiled (program : Program) : CompiledPattern :=
  ⟨program.isMatch, program.hits⟩

end Program

end CSurvey.Pattern
