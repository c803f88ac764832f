import CSurvey.Token.Place

/-!
# Places by position

A place stands for its position: what stands before and after it is what the list
has at the positions around it.  The places of a list are those of its parts, which
see the other parts before and after them.
-/

namespace CSurvey.Place

/-- The position of a place in its list. -/
def position (place : Place) : Nat :=
  place.before.length

variable {tokens : List Token} {place : Place}

theorem length_eq_of_mem_all (member : place ∈ all tokens) :
    tokens.length = place.position + 1 + place.after.length := by
  rw [← tokens_of_mem_all member, Place.tokens, position, List.length_append, List.length_reverse,
    List.length_cons]
  omega

theorem exists_front (member : place ∈ all tokens) :
    ∃ front, tokens = front ++ place.here :: place.after ∧ front.length = place.position ∧
      front.reverse = place.before := by
  refine ⟨place.before.reverse, ?_, List.length_reverse, List.reverse_reverse _⟩
  exact (tokens_of_mem_all member).symm

theorem getElem?_position (member : place ∈ all tokens) :
    tokens[place.position]? = some place.here := by
  obtain ⟨front, eq, length, -⟩ := exists_front member
  simp [eq, ← length]

theorem getElem?_after (member : place ∈ all tokens) (ahead : Nat) :
    tokens[place.position + (ahead + 1)]? = place.after[ahead]? := by
  obtain ⟨front, eq, length, -⟩ := exists_front member
  simp [eq, ← length, List.getElem?_append_right]

theorem map_position_allFrom (before tokens : List Token) :
    (allFrom before tokens).map position = List.range' before.length tokens.length := by
  induction tokens generalizing before with
  | nil => rfl
  | cons tok rest ih => rw [allFrom, List.map_cons, ih, List.length_cons, List.length_cons,
      List.range'_succ, position]

theorem map_position_all (tokens : List Token) :
    (all tokens).map position = List.range tokens.length := by
  rw [all, map_position_allFrom, List.length_nil, List.range_eq_range']

theorem allFrom_append (before front back : List Token) :
    allFrom before (front ++ back) =
      (allFrom before front).map (fun place => { place with after := place.after ++ back }) ++
        allFrom (front.reverse ++ before) back := by
  induction front generalizing before with
  | nil => rfl
  | cons tok front ih => simp [allFrom, ih]

theorem exists_front_of_mem_allFrom {before : List Token} (member : place ∈ allFrom before tokens) :
    ∃ front, tokens = front ++ place.here :: place.after ∧
      place.before = front.reverse ++ before := by
  induction tokens generalizing before with
  | nil => cases member
  | cons tok rest ih =>
    rcases List.mem_cons.1 member with rfl | later
    · exact ⟨[], rfl, rfl⟩
    · obtain ⟨front, rfl, eq⟩ := ih later
      exact ⟨tok :: front, rfl, by simp [eq]⟩

end CSurvey.Place
