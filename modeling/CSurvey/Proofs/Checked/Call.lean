import CSurvey.Call
import CSurvey.Proofs.Checked.Basic
import CSurvey.Proofs.Token.Place
import Mathlib.Data.List.Forall2

/-!
# Call sites by position

The call sites among some tokens and the arguments of a call, read by position.
-/

namespace CSurvey

namespace Place

variable {tokens : List Token} {place : Place}

theorem mem_all_of_mem_callPlaces : ∀ place ∈ callPlaces tokens, place ∈ all tokens :=
  (List.filter_sublist ..).subset

theorem isCall_of_after_eq_nil (last : place.after = []) : place.isCall = false := by
  simp [isCall, next, last, Token.punctAt]

theorem filter_isCall_dropLast (before tokens : List Token) :
    (allFrom before tokens).dropLast.filter isCall = (allFrom before tokens).filter isCall := by
  induction tokens generalizing before with
  | nil => rfl
  | cons tok rest ih =>
    cases rest with
    | nil => simp [allFrom, isCall_of_after_eq_nil]
    | cons next rest =>
      have later := ih (tok :: before)
      have more : allFrom (tok :: before) (next :: rest) ≠ [] := by simp [allFrom]
      rw [allFrom, List.dropLast_cons_of_ne_nil more, List.filter_cons, List.filter_cons, later]

end Place

namespace Checked

variable {tokens : List Token} {place : Place}

theorem item_position (member : place ∈ Place.all tokens) :
    item tokens place.position = .ok place.here :=
  item_eq_ok (Place.getElem?_position member)

theorem behind_position (member : place ∈ Place.all tokens) :
    behind tokens place.position = .ok place.previous := by
  obtain ⟨front, eq, length, before⟩ := Place.exists_front member
  rw [eq, ← length, behind_append, Place.previous, ← before, List.head?_reverse]

def isCall (tokens : List Token) (position : Nat) : Checked Bool := do
  let tok ← item tokens position
  if !tok.isName then return false
  let next ← item tokens (position + 1)
  if !next.isPunct "(" then return false
  let previous ← behind tokens position
  return !(Token.punctAt previous "." || Token.punctAt previous "->")

/-- The positions of the call sites.  The last token is not tried, since none comes after it. -/
def callPositions (tokens : List Token) : Checked (List Nat) :=
  select (isCall tokens) (List.range (tokens.length - 1))

def textsAt (tokens : List Token) (positions : List Nat) : Checked (List String) :=
  each (fun position => Token.text <$> item tokens position) positions

def countCalls (tokens : List Token) : Checked Tally := do
  let names ← textsAt tokens (← callPositions tokens)
  return Tally.ofNames names

theorem textsAt_position {places : List Place}
    (among : ∀ place ∈ places, place ∈ Place.all tokens) :
    textsAt tokens (places.map Place.position) =
      .ok (places.map (fun place => place.here.text)) :=
  each_map (fun place member => by rw [item_position (among place member), ok_map])

theorem isCall_position (member : place ∈ Place.all tokens) (more : place.after ≠ []) :
    isCall tokens place.position = .ok place.isCall := by
  obtain ⟨next, rest, after⟩ := List.exists_cons_of_ne_nil more
  have ahead := Place.getElem?_after member 0
  rw [after, List.getElem?_cons_zero] at ahead
  rw [isCall, item_position member, ok_bind, item_eq_ok ahead, ok_bind, behind_position member,
    ok_bind, Place.isCall, Place.next, after]
  cases named : place.here.isName <;> cases opens : next.isPunct "(" <;>
    simp [Token.punctAt, opens]

theorem callPositions_eq (tokens : List Token) :
    callPositions tokens = .ok ((callPlaces tokens).map Place.position) := by
  have positions : List.range (tokens.length - 1) =
      (Place.all tokens).dropLast.map Place.position := by
    rw [List.map_dropLast, Place.map_position_all, List.dropLast_eq_take, List.length_range,
      List.take_range, Nat.min_eq_left (Nat.sub_le ..)]
  have among {place : Place} (member : place ∈ (Place.all tokens).dropLast) :
      place ∈ Place.all tokens :=
    (List.dropLast_sublist _).subset member
  have more : ∀ place ∈ (Place.all tokens).dropLast, place.after ≠ [] := by
    intro place member last
    have length := Place.length_eq_of_mem_all (among member)
    have inside := List.mem_map_of_mem (f := Place.position) member
    rw [← positions, List.mem_range, length, last, List.length_nil] at inside
    omega
  rw [callPositions, positions, select_map (fun place inside =>
    isCall_position (among inside) (more place inside)),
    Place.all, Place.filter_isCall_dropLast]
  rfl

theorem countCalls_eq (tokens : List Token) :
    countCalls tokens = .ok (CSurvey.countCalls tokens) := by
  rw [countCalls, callPositions_eq, ok_bind, textsAt_position Place.mem_all_of_mem_callPlaces,
    ok_bind, pure_eq_ok, CSurvey.countCalls, callSites, List.map_map]
  rfl

end Checked

/-- The ranges of the arguments of a call, and the position of the token that ends them. -/
structure ArgumentRanges where
  args : List (Nat × Nat)
  close : Nat
deriving DecidableEq, Repr

namespace ArgumentRanges

/-- The ranges hold these arguments, one by one. -/
def Hold (tokens : List Token) : List (Nat × Nat) → List (List Token) → Prop :=
  List.Forall₂ (fun range arg => Checked.part tokens range.1 range.2 = .ok arg)

theorem Hold.getElem? {tokens : List Token} {ranges : List (Nat × Nat)}
    {args : List (List Token)} (hold : Hold tokens ranges args) (index : Nat) :
    (ranges[index]? = none ∧ args[index]? = none) ∨
      ∃ range arg, ranges[index]? = some range ∧ args[index]? = some arg ∧
        Checked.part tokens range.1 range.2 = .ok arg := by
  induction hold generalizing index with
  | nil => exact Or.inl ⟨rfl, rfl⟩
  | @cons range arg _ _ here _ ih =>
    cases index with
    | zero => exact Or.inr ⟨range, arg, rfl, rfl, here⟩
    | succ index => exact ih index

/-- The ranges hold the arguments of a call, and the token after them ends it. -/
structure Spells (ranges : ArgumentRanges) (tokens : List Token) (arguments : Arguments) :
    Prop where
  args : Hold tokens ranges.args arguments.args
  close : tokens[ranges.close]? = some arguments.close
  rest : tokens.drop (ranges.close + 1) = arguments.rest

theorem Spells.exists_front {ranges : ArgumentRanges} {tokens : List Token}
    {arguments : Arguments} (spells : ranges.Spells tokens arguments) :
    ∃ front, tokens = front ++ arguments.close :: arguments.rest ∧
      front.length = ranges.close := by
  obtain ⟨inside, here⟩ := List.getElem?_eq_some_iff.1 spells.close
  refine ⟨tokens.take ranges.close, ?_, by rw [List.length_take]; omega⟩
  rw [← spells.rest, ← here, ← List.drop_eq_getElem_cons inside, List.take_append_drop]

end ArgumentRanges

namespace Checked

/-- Read arguments from `position` on, with `level` brackets open; `args` holds the ranges read,
and `start` is where the one being read begins. -/
def readArguments (tokens : List Token) : (steps position level : Nat) →
    (args : List (Nat × Nat)) → (start : Nat) → Checked ArgumentRanges
  | 0, _, _, args, start =>
    let all := if start < tokens.length then args ++ [(start, tokens.length)] else args
    .ok ⟨all, tokens.length - 1⟩
  | steps + 1, position, level, args, start => do
    let tok ← item tokens position
    if tok.isPunct "(" || tok.isPunct "[" then
      readArguments tokens steps (position + 1) (level + 1) args start
    else if tok.isPunct ")" || tok.isPunct "]" then
      if level - 1 = 0 then
        let all := if start < position || !args.isEmpty then args ++ [(start, position)] else args
        return ⟨all, position⟩
      else readArguments tokens steps (position + 1) (level - 1) args start
    else if tok.isPunct "," && level == 1 then
      readArguments tokens steps (position + 1) level (args ++ [(start, position)]) (position + 1)
    else readArguments tokens steps (position + 1) level args start

/-- The arguments of the call whose name stands at a position. -/
def callArguments (tokens : List Token) (name : Nat) : Checked ArgumentRanges :=
  readArguments tokens (tokens.length - (name + 1)) (name + 1) 0 [] (name + 2)

section ReadArguments

variable {tokens front current rest : List Token} {last tok : Token} {level : Nat}
  {ranges : List (Nat × Nat)} {args : List (List Token)}

theorem hold_current (whole : tokens = front ++ (current.reverse ++ rest))
    (read : ArgumentRanges.Hold tokens ranges args.reverse) :
    ArgumentRanges.Hold tokens (ranges ++ [(front.length, front.length + current.length)])
      (current.reverse :: args).reverse := by
  have middle := part_middle front current.reverse rest
  rw [← whole, List.length_reverse] at middle
  rw [List.reverse_cons]
  exact List.rel_append read (.cons middle .nil)

theorem isEmpty_of_hold (read : ArgumentRanges.Hold tokens ranges args.reverse) :
    ranges.isEmpty = args.isEmpty := by
  have lengths := List.Forall₂.length_eq read
  rw [List.length_reverse] at lengths
  cases ranges <;> cases args <;> simp_all

theorem readArguments_spells (whole : tokens = front ++ (current.reverse ++ rest))
    (read : ArgumentRanges.Hold tokens ranges args.reverse)
    (before : (front ++ current.reverse).getLast? = some last) :
    ∃ found, readArguments tokens rest.length (front.length + current.length) level ranges
        front.length = .ok found ∧
      found.Spells tokens (Arguments.collect level args current last rest) := by
  induction rest generalizing level front current ranges args last with
  | nil =>
    have more := hold_current whole read
    rw [List.append_nil] at whole
    have length : tokens.length = front.length + current.length := by
      rw [whole, List.length_append, List.length_reverse]
    rw [← whole] at before
    refine ⟨_, rfl, ?_, ?_, ?_⟩
    · cases current with
      | nil => simpa [Arguments.collect, length] using read
      | cons tok current => simpa [Arguments.collect, length] using more
    · rw [← List.getLast?_eq_getElem?, before]
      rfl
    · exact List.drop_of_length_le (by dsimp only; omega)
  | cons tok rest ih =>
    have more := hold_current whole read
    have empty := isEmpty_of_hold read
    have split : tokens = (front ++ current.reverse) ++ tok :: rest := by
      rw [whole, List.append_assoc]
    have length : (front ++ current.reverse).length = front.length + current.length := by
      rw [List.length_append, List.length_reverse]
    have passes {level : Nat} : ∃ found, readArguments tokens rest.length
        (front.length + current.length + 1) level ranges front.length = .ok found ∧
        found.Spells tokens (Arguments.collect level args (tok :: current) tok rest) := by
      have whole : tokens = front ++ ((tok :: current).reverse ++ rest) := by simp [whole]
      exact ih whole read (by simp)
    rw [List.length_cons, readArguments, item_split split length, ok_bind, Arguments.collect]
    split
    · exact passes
    split
    · by_cases last : level ≤ 1
      · rw [if_pos (by omega : level - 1 = 0), if_pos last]
        refine ⟨_, rfl, ?_, ?_, ?_⟩
        · cases current with
          | nil => cases empty : args.isEmpty <;> simp_all
          | cons tok current => simpa using more
        · exact getElem?_split split length
        · exact drop_split split length
      · rw [if_neg (by omega : ¬ level - 1 = 0), if_neg last]
        exact passes
    split
    · -- the next argument begins after the comma
      have whole : tokens = (front ++ (current.reverse ++ [tok])) ++ ([].reverse ++ rest) := by
        simp [whole]
      have before : (front ++ (current.reverse ++ [tok]) ++ ([] : List Token).reverse).getLast? =
          some tok := by simp
      have next : ∃ found, _ ∧ _ := @ih _ _ _ level _ _ whole more before
      simpa [Nat.add_assoc] using next
    · exact passes

end ReadArguments

theorem callArguments_spells (member : place ∈ Place.all tokens) (calls : place.isCall = true) :
    ∃ ranges, callArguments tokens place.position = .ok ranges ∧
      ranges.Spells tokens place.arguments := by
  obtain ⟨front, eq, length, -⟩ := Place.exists_front member
  cases after : place.after with
  | nil => simp [Place.isCall_of_after_eq_nil after] at calls
  | cons opening rest =>
    rw [after] at eq
    have opens : opening.isPunct "(" = true := by
      simp only [Place.isCall, Place.next, after, Bool.and_eq_true] at calls
      exact calls.1.2
    have steps : tokens.length - (place.position + 1) = rest.length + 1 := by
      rw [Place.length_eq_of_mem_all member, after, List.length_cons]
      omega
    have whole : tokens = front ++ [place.here, opening] ++ ([].reverse ++ rest) := by
      simp [eq]
    have before : (front ++ [place.here, opening] ++ ([] : List Token).reverse).getLast? =
        some opening := by simp
    have next := @readArguments_spells _ _ [] _ _ 1 [] [] whole .nil before
    have start : (front ++ [place.here, opening]).length = place.position + 2 := by
      simp [length]
    have opened : item tokens (place.position + 1) = .ok opening :=
      item_split (by simp [eq] : _ = (front ++ [place.here]) ++ opening :: rest) (by simp [length])
    rw [callArguments, steps, readArguments, opened, ok_bind]
    simpa [opens, start, Place.arguments, after] using next

end Checked

end CSurvey
