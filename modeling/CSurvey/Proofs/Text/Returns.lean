import Mathlib.Data.List.Basic

/-!
# Carriage returns in a text

A text can end its lines in a line feed or in a carriage return and a line feed.
Putting a carriage return before each line feed keeps the number of lines, and what
other characters stand where.
-/

namespace CSurvey

namespace Text

/-- A text with a carriage return before each line feed. -/
def withReturns (cs : List Char) : List Char :=
  cs.flatMap (fun c => if c = '\n' then ['\r', '\n'] else [c])

@[simp]
theorem withReturns_nil : withReturns [] = [] :=
  rfl

@[simp]
theorem withReturns_newline (cs : List Char) :
    withReturns ('\n' :: cs) = '\r' :: '\n' :: withReturns cs :=
  rfl

theorem withReturns_cons {c : Char} (other : c ≠ '\n') (cs : List Char) :
    withReturns (c :: cs) = c :: withReturns cs := by
  simp [withReturns, other]

@[simp]
theorem withReturns_append (front back : List Char) :
    withReturns (front ++ back) = withReturns front ++ withReturns back :=
  List.flatMap_append

theorem withReturns_of_not_mem {cs : List Char} (noFeed : '\n' ∉ cs) : withReturns cs = cs := by
  induction cs with
  | nil => rfl
  | cons c cs ih =>
    rw [List.mem_cons, not_or] at noFeed
    rw [withReturns_cons (Ne.symm noFeed.1), ih noFeed.2]

theorem count_withReturns (cs : List Char) :
    (withReturns cs).count '\n' = cs.count '\n' := by
  induction cs with
  | nil => rfl
  | cons c cs ih =>
    by_cases newline : c = '\n'
    · subst newline
      simp [ih]
    · rw [withReturns_cons newline, List.count_cons_of_ne newline,
        List.count_cons_of_ne newline, ih]

/-- The first character is the same unless it is a line feed, which a carriage return precedes. -/
theorem head?_withReturns (cs : List Char) :
    (withReturns cs).head? = cs.head?.map (fun c => if c = '\n' then '\r' else c) := by
  cases cs with
  | nil => rfl
  | cons c cs =>
    by_cases newline : c = '\n'
    · subst newline
      rfl
    · simp [withReturns_cons newline, newline]

/-- A character that begins no line ending comes first in both texts. -/
theorem head?_withReturns_iff {c : Char} (notReturn : c ≠ '\r') (notFeed : c ≠ '\n')
    {cs : List Char} : (withReturns cs).head? = some c ↔ cs.head? = some c := by
  rw [head?_withReturns, Option.map_eq_some_iff]
  constructor
  · rintro ⟨d, head, same⟩
    split at same
    · exact absurd same.symm notReturn
    · rw [head, same]
  · exact fun head => ⟨c, head, if_neg notFeed⟩

theorem take_two_withReturns_iff {c : Char} (notReturn : c ≠ '\r') (notFeed : c ≠ '\n')
    {cs : List Char} : (withReturns cs).take 2 = [c, c] ↔ cs.take 2 = [c, c] := by
  cases cs with
  | nil => rfl
  | cons d cs =>
    by_cases newline : d = '\n'
    · subst newline
      simp [Ne.symm notReturn, Ne.symm notFeed]
    · have heads : (withReturns cs).head? = some c ↔ cs.head? = some c :=
        head?_withReturns_iff notReturn notFeed
      rw [withReturns_cons newline, List.take_succ_cons, List.take_succ_cons, List.cons.injEq,
        List.cons.injEq, List.take_one, List.take_one]
      simp [← heads, Option.toList_eq_singleton_iff]

end Text

end CSurvey
