import CSurvey.Proofs.Pattern.Matches
import CSurvey.Proofs.Token.Words
import CSurvey.Search.Basic

/-!
# Occurrences of a word

A search for a text that stands for itself takes it wherever it stands, from the
front, and goes on behind it.  So it can miss an occurrence only when an earlier
one runs into it, which does not happen to one that no word goes on into.
-/

namespace CSurvey

namespace Search

/-- The occurrences of a word that are taken one after the other in a text before which `offset`
bytes come, with the bytes at which they begin. -/
inductive Occurrences (word : List Char) : Nat → List Char → List (Nat × List Char) → Prop
  | done (offset : Nat) : Occurrences word offset [] []
  | pass {offset : Nat} {c : Char} {rest : List Char} {places : List (Nat × List Char)}
      (other : ¬ word <+: c :: rest) (tail : Occurrences word (offset + c.utf8Size) rest places) :
      Occurrences word offset (c :: rest) places
  | take {offset : Nat} {rest : List Char} {places : List (Nat × List Char)}
      (tail : Occurrences word (offset + Text.byteLength word) rest places) :
      Occurrences word offset (word ++ rest) ((offset, word) :: places)

theorem byteLength_reverse (cs : List Char) : Text.byteLength cs.reverse = Text.byteLength cs := by
  induction cs with
  | nil => rfl
  | cons c cs ih =>
    rw [List.reverse_cons, Text.byteLength_append, ih, Text.byteLength_cons, Text.byteLength_cons,
      Text.byteLength_nil]
    omega

theorem occurrences_exactHits {word : List Char} (nonempty : word ≠ []) (offset : Nat)
    (gap cs : List Char) :
    Occurrences word (offset + Text.byteLength gap) cs
      (Field.located offset (Matcher.exactHits word gap 0 cs)) := by
  induction cs using Matcher.search_induction nonempty generalizing offset gap with
  | done => exact .done _
  | take rest ih =>
    have later := ih (offset + Text.byteLength gap + Text.byteLength word) []
    rw [Text.byteLength_nil, Nat.add_zero] at later
    rw [Matcher.exactHits_append nonempty]
    simp only [Field.located, byteLength_reverse, List.isEmpty_eq_false_iff.2 nonempty,
      Bool.false_eq_true, if_false]
    exact .take later
  | pass c rest other ih =>
    have later := ih offset (c :: gap)
    rw [Text.byteLength_cons, Nat.add_comm c.utf8Size, ← Nat.add_assoc] at later
    rw [Matcher.exactHits_cons other]
    exact .pass other later

namespace Occurrences

variable {word cs : List Char} {offset : Nat} {places : List (Nat × List Char)}

theorem exists_front (occurrences : Occurrences word offset cs places) {start : Nat}
    {part : List Char} (member : (start, part) ∈ places) :
    part = word ∧ ∃ front back, cs = front ++ (word ++ back) ∧
      start = offset + Text.byteLength front := by
  induction occurrences with
  | done => cases member
  | @pass offset c rest places other tail ih =>
    obtain ⟨same, front, back, rfl, eq⟩ := ih member
    exact ⟨same, c :: front, back, rfl, by rw [eq, Text.byteLength_cons, Nat.add_assoc]⟩
  | @take offset rest places tail ih =>
    rcases List.mem_cons.1 member with here | later
    · obtain ⟨rfl, rfl⟩ := Prod.mk.inj here
      exact ⟨rfl, [], rest, rfl, rfl⟩
    · obtain ⟨same, front, back, rfl, eq⟩ := ih later
      refine ⟨same, word ++ front, back, by simp, ?_⟩
      rw [eq, Text.byteLength_append, Nat.add_assoc]

theorem pairwise_start (occurrences : Occurrences word offset cs places) (nonempty : word ≠ []) :
    places.Pairwise (fun first second => first.1 < second.1) := by
  induction occurrences with
  | done => exact .nil
  | pass _ _ ih => exact ih
  | take tail ih =>
    refine List.pairwise_cons.2 ⟨fun second member => ?_, ih⟩
    obtain ⟨-, front, back, -, eq⟩ := tail.exists_front member
    have long := Text.byteLength_pos nonempty
    omega

/-- The word is taken where it stands if no earlier occurrence can run into it. -/
theorem mem_of_getLast? {front back : List Char} (nonempty : word ≠ [])
    (occurrences : Occurrences word offset (front ++ (word ++ back)) places)
    (parted : ∀ c ∈ front.getLast?, c ∉ word) :
    (offset + Text.byteLength front, word) ∈ places := by
  generalize whole : front ++ (word ++ back) = cs at occurrences
  induction occurrences generalizing front with
  | done => simp [nonempty] at whole
  | @pass offset c rest places other tail ih =>
    cases front with
    | nil => exact absurd ⟨back, whole⟩ other
    | cons d front =>
      obtain ⟨rfl, rfl⟩ := List.cons.inj whole
      have later := ih (fun e isLast => parted e (Lexeme.getLast?_cons_of_some isLast)) rfl
      rwa [Nat.add_assoc, ← Text.byteLength_cons] at later
  | @take offset rest places tail ih =>
    rcases List.append_eq_append_iff.1 whole with ⟨more, inside, -⟩ | ⟨more, rfl, remains⟩
    · -- The word taken here reaches beyond the front, so it holds the front's last character.
      cases last : front.getLast? with
      | none =>
        rw [List.getLast?_eq_none_iff.1 last]
        exact List.mem_cons_self ..
      | some c =>
        have inWord : c ∈ word := inside ▸ List.mem_append_left _ (List.mem_of_getLast? last)
        exact absurd inWord (parted c last)
    · have partedMore : ∀ e ∈ more.getLast?, e ∉ word := fun e isLast => parted e (by
        rw [List.getLast?_append, isLast]
        rfl)
      have later := ih partedMore remains.symm
      rw [Text.byteLength_append, ← Nat.add_assoc]
      exact List.mem_cons_of_mem _ later

end Occurrences

end Search

end CSurvey
