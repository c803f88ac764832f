import CSurvey.Pattern.CharSet

/-!
# Regular expressions

The expressions that a pattern stands for.  Of several ways to match, the first
branch of an alternative is preferred to the second, and a repetition prefers
more rounds if it is greedy and fewer if it is not.
-/

namespace CSurvey.Pattern

/-- A condition on the place between two characters. -/
inductive Look where
  | start
  | finish
  | lineStart
  | lineEnd
  | crlfLineStart
  | crlfLineEnd
  | wordBoundary (unicode : Bool)
  | notWordBoundary (unicode : Bool)
  | wordStart (unicode : Bool)
  | wordEnd (unicode : Bool)
  | wordStartHalf (unicode : Bool)
  | wordEndHalf (unicode : Bool)
deriving DecidableEq, Repr

inductive Regex where
  | empty
  | look (condition : Look)
  | set (chars : CharSet)
  | cat (first second : Regex)
  | alt (first second : Regex)
  /-- From `low` to `high` rounds, without bound if `high` is `none`. -/
  | rounds (inner : Regex) (low : Nat) (high : Option Nat) (greedy : Bool)
deriving DecidableEq, Repr

namespace Regex

/-- The concatenation of a list. -/
def catAll : List Regex → Regex
  | [] => empty
  | [single] => single
  | first :: rest => cat first (catAll rest)

/-- The alternative of a list. -/
def altAll : List Regex → Regex
  | [] => empty
  | [single] => single
  | first :: rest => alt first (altAll rest)

/-- Whether the empty text may match. -/
def isNullable : Regex → Bool
  | empty | look _ => true
  | set _ => false
  | cat first second => first.isNullable && second.isNullable
  | alt first second => first.isNullable || second.isNullable
  | rounds inner low _ _ => low == 0 || inner.isNullable

/-- The memory that a compiled expression takes, in bytes, about. -/
def memory : Regex → Nat
  | empty | look _ => 32
  | set chars => 32 * max 1 (2 * chars.length - 1)
  | cat first second => first.memory + second.memory
  | alt first second => first.memory + second.memory + 32
  | rounds inner low high _ => inner.memory * max low (high.getD 0) + 32

/-- The memory that a compiled expression may take. -/
def memoryLimit : Nat :=
  10 * Nat.pow 2 20

end Regex

end CSurvey.Pattern
