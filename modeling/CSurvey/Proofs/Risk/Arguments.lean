import CSurvey.Proofs.Checked.Call
import CSurvey.Proofs.Token.Nesting
import CSurvey.Token.Scan
import Mathlib.Data.List.Chain
import Mathlib.Order.Bounds.Basic

/-!
# The arguments of a call

A call ends where as many of its parentheses and brackets have been closed as were
opened, whichever of the two kinds they are.  The commas between that stand in no
other group part its tokens into arguments.  The reader keeps a level and the place
where the argument at hand begins; as long as it reads, the level is the nesting and
no such comma has been passed since.
-/

namespace CSurvey

namespace Token

/-- An opening parenthesis or bracket. -/
def opensGroup (tok : Token) : Bool :=
  tok.isPunct "(" || tok.isPunct "["

/-- A closing parenthesis or bracket. -/
def closesGroup (tok : Token) : Bool :=
  tok.isPunct ")" || tok.isPunct "]"

theorem closesGroup_of_opensGroup {tok : Token} (opens : tok.opensGroup = true) :
    tok.closesGroup = false := by
  rw [opensGroup, Bool.or_eq_true] at opens
  rw [closesGroup]
  rcases opens with round | square
  · simp [not_isPunct_of_isPunct round]
  · simp [not_isPunct_of_isPunct square]

/-- A comma is no parenthesis and no bracket. -/
theorem group_of_isPunct_comma {tok : Token} (comma : tok.isPunct "," = true) :
    tok.opensGroup = false ∧ tok.closesGroup = false := by
  simp [opensGroup, closesGroup, not_isPunct_of_isPunct comma]

theorem isPunct_comma_of_group {tok : Token}
    (group : tok.opensGroup = true ∨ tok.closesGroup = true) : tok.isPunct "," = false := by
  rw [Bool.eq_false_iff]
  intro comma
  obtain ⟨opens, closes⟩ := group_of_isPunct_comma comma
  simp [opens, closes] at group

end Token

/-- How many more groups were opened than closed by the tokens from `opening` on that stand before
`position`. -/
def nesting (tokens : List Token) (opening position : Nat) : Int :=
  ((tokens.take position).drop opening).countP Token.opensGroup -
    ((tokens.take position).drop opening).countP Token.closesGroup

/-- The token at a position brings the nesting back to zero. -/
def Returns (tokens : List Token) (opening position : Nat) : Prop :=
  opening ≤ position ∧ position < tokens.length ∧ nesting tokens opening (position + 1) = 0

/-- The token at a position is a comma in no group but the one that was opened first. -/
def Separates (tokens : List Token) (opening position : Nat) : Prop :=
  Token.punctAt tokens[position]? "," = true ∧ nesting tokens opening position = 1

section Nesting

variable {tokens : List Token} {tok : Token} {opening position : Nat}

theorem nesting_succ (opened : opening ≤ position) (here : tokens[position]? = some tok) :
    nesting tokens opening (position + 1) = nesting tokens opening position +
      (if tok.opensGroup then 1 else 0) - (if tok.closesGroup then 1 else 0) := by
  obtain ⟨inside, -⟩ := List.getElem?_eq_some_iff.1 here
  have longer : (tokens.take (position + 1)).drop opening =
      (tokens.take position).drop opening ++ [tok] := by
    rw [List.take_add_one, here, Option.toList_some, List.drop_append_of_le_length]
    rw [List.length_take]
    omega
  rw [nesting, nesting, longer, List.countP_append, List.countP_append, List.countP_singleton,
    List.countP_singleton]
  cases tok.opensGroup <;> cases tok.closesGroup <;> simp <;> omega

theorem nesting_self (tokens : List Token) (opening : Nat) : nesting tokens opening opening = 0 := by
  have nothing : (tokens.take opening).drop opening = [] :=
    List.drop_of_length_le (List.length_take_le ..)
  rw [nesting, nothing]
  rfl

end Nesting

/-- Ranges in a row from `start` up to `stop`: between two of them stands one separator, and none
stands inside them.  After a separator at the end there may be no further range. -/
inductive Row (tokens : List Token) (opening : Nat) : Nat → List (Nat × Nat) → Nat → Prop
  | nil {stop : Nat} : Row tokens opening stop [] stop
  | last {start stop : Nat} (ordered : start ≤ stop)
      (plain : ∀ position, start ≤ position → position < stop →
        ¬ Separates tokens opening position) :
      Row tokens opening start [(start, stop)] stop
  | next {start comma stop : Nat} {ranges : List (Nat × Nat)} (ordered : start ≤ comma)
      (plain : ∀ position, start ≤ position → position < comma →
        ¬ Separates tokens opening position)
      (separates : Separates tokens opening comma)
      (later : Row tokens opening (comma + 1) ranges stop) :
      Row tokens opening start ((start, comma) :: ranges) stop

namespace Row

variable {tokens : List Token} {opening start stop : Nat} {ranges : List (Nat × Nat)}

theorem inside (row : Row tokens opening start ranges stop) :
    start ≤ stop ∧ ∀ range ∈ ranges, start ≤ range.1 ∧ range.1 ≤ range.2 ∧ range.2 ≤ stop := by
  induction row with
  | nil => exact ⟨Nat.le_refl _, fun _ member => absurd member List.not_mem_nil⟩
  | last ordered plain => simpa using ordered
  | @next start comma stop ranges ordered plain separates later ih =>
    obtain ⟨further, ih⟩ := ih
    refine ⟨by omega, List.forall_mem_cons.2 ⟨⟨Nat.le_refl _, ordered, by omega⟩, ?_⟩⟩
    intro range member
    have bounds := ih range member
    exact ⟨by omega, bounds.2⟩

theorem disjoint (row : Row tokens opening start ranges stop) :
    ranges.Pairwise (fun one other => one.2 < other.1) := by
  induction row with
  | nil => exact .nil
  | last ordered plain => exact List.pairwise_singleton _ _
  | next ordered plain separates later ih =>
    exact List.pairwise_cons.2 ⟨fun range member => (later.inside.2 range member).1, ih⟩

theorem separated (row : Row tokens opening start ranges stop) :
    ranges.IsChain (fun one next => next.1 = one.2 + 1 ∧ Separates tokens opening one.2) := by
  induction row with
  | nil => exact .nil
  | last ordered plain => exact .singleton _
  | next ordered plain separates later ih =>
    cases later with
    | nil => exact .singleton _
    | last => exact .cons_cons ⟨rfl, separates⟩ ih
    | next => exact .cons_cons ⟨rfl, separates⟩ ih

theorem covered (row : Row tokens opening start ranges stop) {position : Nat}
    (after : start ≤ position) (before : position < stop) :
    (∃ range ∈ ranges, range.1 ≤ position ∧ position < range.2) ↔
      ¬ Separates tokens opening position := by
  induction row with
  | nil => omega
  | last ordered plain => simp [after, before, plain position after before]
  | @next start comma stop ranges ordered plain separates later ih =>
    rw [List.exists_mem_cons_iff]
    rcases Nat.lt_trichotomy position comma with early | rfl | late
    · simp [after, early, plain position after early]
    · have beyond : ¬ ∃ range ∈ ranges, range.1 ≤ position ∧ position < range.2 := by
        rintro ⟨range, member, begins, -⟩
        have bounds := (later.inside.2 range member).1
        omega
      simp [separates, beyond]
    · rw [← ih late before]
      refine or_iff_right ?_
      dsimp only
      omega

theorem ended (row : Row tokens opening start ranges stop) {position : Nat}
    (after : start ≤ position) (before : position < stop)
    (separates : Separates tokens opening position) : ∃ range ∈ ranges, range.2 = position := by
  induction row with
  | nil => omega
  | last ordered plain => exact absurd separates (plain position after before)
  | @next start comma stop ranges ordered plain here later ih =>
    rcases Nat.lt_trichotomy position comma with early | rfl | late
    · exact absurd separates (plain position after early)
    · exact ⟨_, List.mem_cons_self .., rfl⟩
    · obtain ⟨range, member, ends⟩ := ih late before
      exact ⟨range, List.mem_cons_of_mem _ member, ends⟩

end Row

/-- The ranges and the separators between them tile the positions after `opening` and before
`stop`. -/
structure Tiles (tokens : List Token) (opening stop : Nat) (ranges : List (Nat × Nat)) : Prop where
  inside : ∀ range ∈ ranges, opening < range.1 ∧ range.1 ≤ range.2 ∧ range.2 ≤ stop
  disjoint : ranges.Pairwise (fun one other => one.2 < other.1)
  separated : ranges.IsChain (fun one next =>
    next.1 = one.2 + 1 ∧ Separates tokens opening one.2)
  covered : ∀ position, opening < position → position < stop →
    ((∃ range ∈ ranges, range.1 ≤ position ∧ position < range.2) ↔
      ¬ Separates tokens opening position)
  ended : ∀ position, opening < position → position < stop →
    Separates tokens opening position → ∃ range ∈ ranges, range.2 = position

theorem Row.tiles {tokens : List Token} {opening stop : Nat} {ranges : List (Nat × Nat)}
    (row : Row tokens opening (opening + 1) ranges stop) : Tiles tokens opening stop ranges where
  inside := row.inside.2
  disjoint := row.disjoint
  separated := row.separated
  covered _ after before := row.covered after before
  ended _ after before separates := row.ended after before separates

/-- The ranges are the arguments of the call whose name stands at a position. -/
structure ArgumentRanges.Divide (ranges : ArgumentRanges) (tokens : List Token) (name : Nat) :
    Prop where
  /-- A call closes where its nesting first returns to zero. -/
  closed : ∀ stop, IsLeast {position | Returns tokens (name + 1) position} stop →
    ranges.close = stop ∧ Tiles tokens (name + 1) stop ranges.args ∧
      (ranges.args = [] ↔ stop = name + 2) ∧
      (ranges.args ≠ [] → ∃ range ∈ ranges.args, range.2 = stop)
  unclosed : (∀ position, ¬ Returns tokens (name + 1) position) →
    ranges.close + 1 = tokens.length ∧ Tiles tokens (name + 1) tokens.length ranges.args

namespace Checked

/-- What holds when the token at `position` is read with `level` groups open, in an argument that
begins at `start`. -/
structure Reading (tokens : List Token) (opening position level start : Nat) : Prop where
  opened : opening < start
  begun : start ≤ position
  nested : nesting tokens opening position = level
  positive : 1 ≤ level
  plain : ∀ earlier, start ≤ earlier → earlier < position → ¬ Separates tokens opening earlier
  stays : ∀ earlier, earlier < position → ¬ Returns tokens opening earlier

namespace Reading

variable {tokens : List Token} {tok : Token} {opening position level start : Nat}

theorem separates_iff (reading : Reading tokens opening position level start)
    (here : tokens[position]? = some tok) :
    Separates tokens opening position ↔ (tok.isPunct "," && level == 1) = true := by
  have one : (level : Int) = 1 ↔ level = 1 := by omega
  rw [Separates, here, reading.nested, Bool.and_eq_true, beq_iff_eq, one]
  rfl

theorem nesting_next (reading : Reading tokens opening position level start)
    (here : tokens[position]? = some tok) :
    nesting tokens opening (position + 1) =
      level + (if tok.opensGroup then 1 else 0) - (if tok.closesGroup then 1 else 0) := by
  have opened : opening ≤ position := Nat.le_trans (Nat.le_of_lt reading.opened) reading.begun
  rw [nesting_succ opened here, reading.nested]

/-- A token that neither ends the argument nor the call is part of the argument. -/
theorem pass (reading : Reading tokens opening position level start)
    (here : tokens[position]? = some tok) (next : Nat)
    (nested : nesting tokens opening (position + 1) = next) (positive : 1 ≤ next)
    (plain : (tok.isPunct "," && level == 1) = false) :
    Reading tokens opening (position + 1) next start where
  opened := reading.opened
  begun := Nat.le_succ_of_le reading.begun
  nested := nested
  positive := positive
  plain := by
    intro earlier after before
    rcases Nat.lt_succ_iff_lt_or_eq.1 before with before | rfl
    · exact reading.plain earlier after before
    · rw [reading.separates_iff here, plain]
      exact Bool.false_ne_true
  stays := by
    intro earlier before
    rcases Nat.lt_succ_iff_lt_or_eq.1 before with before | rfl
    · exact reading.stays earlier before
    · rintro ⟨-, -, zero⟩
      omega

theorem next (reading : Reading tokens opening position level start)
    (here : tokens[position]? = some tok) (comma : tok.isPunct "," = true) :
    Reading tokens opening (position + 1) level (position + 1) where
  opened := Nat.lt_succ_of_le (Nat.le_trans (Nat.le_of_lt reading.opened) reading.begun)
  begun := Nat.le_refl _
  nested := by
    obtain ⟨opens, closes⟩ := Token.group_of_isPunct_comma comma
    simp [reading.nesting_next here, opens, closes]
  positive := reading.positive
  plain _ after before := absurd before (Nat.not_lt.2 after)
  stays := by
    obtain ⟨opens, closes⟩ := Token.group_of_isPunct_comma comma
    have nested := reading.nesting_next here
    have positive := reading.positive
    intro earlier before
    rcases Nat.lt_succ_iff_lt_or_eq.1 before with before | rfl
    · exact reading.stays earlier before
    · rintro ⟨-, -, zero⟩
      simp only [opens, closes, Bool.false_eq_true, if_false] at nested
      omega

/-- The first token after which no group is open closes the call. -/
theorem isLeast (reading : Reading tokens opening position level start)
    (inside : position < tokens.length) (zero : nesting tokens opening (position + 1) = 0) :
    IsLeast {position | Returns tokens opening position} position := by
  have opened : opening ≤ position := Nat.le_trans (Nat.le_of_lt reading.opened) reading.begun
  refine ⟨⟨opened, inside, zero⟩, ?_⟩
  intro later returns
  exact Nat.le_of_not_lt (fun earlier => reading.stays later earlier returns)

end Reading

/-- The ranges `more` that are read from `start` on, after the ranges `args`, when the call closes
at `close`. -/
structure Closes (tokens : List Token) (opening start : Nat) (args more : List (Nat × Nat))
    (close : Nat) : Prop where
  first : IsLeast {position | Returns tokens opening position} close
  row : Row tokens opening start more close
  none_iff : more = [] ↔ args = [] ∧ start = close
  last : more ≠ [] → ∃ range ∈ more, range.2 = close

/-- The same when the call never closes. -/
structure RunsOut (tokens : List Token) (opening start : Nat) (more : List (Nat × Nat))
    (close : Nat) : Prop where
  never : ∀ position, ¬ Returns tokens opening position
  close_eq : close = tokens.length - 1
  row : Row tokens opening start more tokens.length

section Close

variable {tokens : List Token} {opening start comma position close : Nat}
  {args more : List (Nat × Nat)}

/-- The call closes after its last argument. -/
theorem Closes.one (first : IsLeast {position | Returns tokens opening position} position)
    (ordered : start ≤ position)
    (plain : ∀ earlier, start ≤ earlier → earlier < position → ¬ Separates tokens opening earlier)
    (nonempty : args = [] → start ≠ position) :
    Closes tokens opening start args [(start, position)] position where
  first := first
  row := .last ordered plain
  none_iff := iff_of_false (List.cons_ne_nil _ _) fun nothing => nonempty nothing.1 nothing.2
  last _ := ⟨_, List.mem_singleton_self _, rfl⟩

/-- The call closes right after it was opened. -/
theorem Closes.none (first : IsLeast {position | Returns tokens opening position} position) :
    Closes tokens opening position [] [] position where
  first := first
  row := .nil
  none_iff := iff_of_true rfl ⟨rfl, rfl⟩
  last nonempty := absurd rfl nonempty

/-- One more argument stands in front. -/
theorem Closes.next (ordered : start ≤ comma)
    (plain : ∀ earlier, start ≤ earlier → earlier < comma → ¬ Separates tokens opening earlier)
    (separates : Separates tokens opening comma)
    (closes : Closes tokens opening (comma + 1) (args ++ [(start, comma)]) more close) :
    Closes tokens opening start args ((start, comma) :: more) close where
  first := closes.first
  row := .next ordered plain separates closes.row
  none_iff := by
    have later := closes.row.inside.1
    refine iff_of_false (List.cons_ne_nil _ _) ?_
    rintro ⟨-, rfl⟩
    omega
  last _ := by
    have nonempty : more ≠ [] := fun nothing => by simpa using closes.none_iff.1 nothing
    obtain ⟨range, member, ends⟩ := closes.last nonempty
    exact ⟨range, List.mem_cons_of_mem _ member, ends⟩

theorem RunsOut.next (ordered : start ≤ comma)
    (plain : ∀ earlier, start ≤ earlier → earlier < comma → ¬ Separates tokens opening earlier)
    (separates : Separates tokens opening comma)
    (runs : RunsOut tokens opening (comma + 1) more close) :
    RunsOut tokens opening start ((start, comma) :: more) close where
  never := runs.never
  close_eq := runs.close_eq
  row := .next ordered plain separates runs.row

end Close

theorem readArguments_row {tokens : List Token} {opening position level start steps : Nat}
    (args : List (Nat × Nat)) (whole : position + steps = tokens.length)
    (reading : Reading tokens opening position level start) :
    ∃ more close, readArguments tokens steps position level args start =
        .ok ⟨args ++ more, close⟩ ∧
      (Closes tokens opening start args more close ∨
        RunsOut tokens opening start more close) := by
  induction steps generalizing position level start args with
  | zero =>
    obtain rfl : position = tokens.length := whole
    have never : ∀ position, ¬ Returns tokens opening position :=
      fun position returns => reading.stays position returns.2.1 returns
    rcases Nat.lt_or_eq_of_le reading.begun with inside | rfl
    · exact ⟨[(start, tokens.length)], _, by rw [readArguments, if_pos inside],
        Or.inr ⟨never, rfl, .last reading.begun reading.plain⟩⟩
    · exact ⟨[], _, by rw [readArguments, if_neg (Nat.lt_irrefl _), List.append_nil],
        Or.inr ⟨never, rfl, .nil⟩⟩
  | succ steps ih =>
    have inside : position < tokens.length := by omega
    have here : tokens[position]? = some tokens[position] := List.getElem?_eq_getElem inside
    have shorter : position + 1 + steps = tokens.length := by omega
    have nested := reading.nesting_next here
    have begun := reading.begun
    have positive := reading.positive
    rw [readArguments, item_eq_ok here, ok_bind]
    split
    · rename_i opens
      have opens : tokens[position].opensGroup = true := opens
      have closes := Token.closesGroup_of_opensGroup opens
      simp only [opens, closes, if_true, Bool.false_eq_true, if_false] at nested
      have plain := Token.isPunct_comma_of_group (.inl opens)
      exact ih args shorter (reading.pass here (level + 1) (by omega) (by omega)
        (by rw [plain, Bool.false_and]))
    · rename_i other
      have opens : tokens[position].opensGroup = false := Bool.eq_false_iff.2 other
      split
      · rename_i closing
        have closes : tokens[position].closesGroup = true := closing
        simp only [opens, closes, if_true, Bool.false_eq_true, if_false] at nested
        split
        · -- the nesting returns to zero for the first time
          have least := reading.isLeast inside (by omega)
          split
          · rename_i listed
            refine ⟨[(start, position)], position, rfl,
              Or.inl (.one least begun reading.plain ?_)⟩
            rintro rfl rfl
            simp at listed
          · rename_i nothing
            simp only [Bool.or_eq_true, decide_eq_true_eq, not_or, Nat.not_lt,
              Bool.not_eq_true', Bool.not_eq_false, List.isEmpty_iff] at nothing
            obtain ⟨past, rfl⟩ := nothing
            obtain rfl : start = position := Nat.le_antisymm begun past
            exact ⟨[], start, rfl, Or.inl (.none least)⟩
        · have plain := Token.isPunct_comma_of_group (.inr closes)
          exact ih args shorter (reading.pass here (level - 1) (by omega) (by omega)
            (by rw [plain, Bool.false_and]))
      · rename_i other
        have closes : tokens[position].closesGroup = false := Bool.eq_false_iff.2 other
        split
        · rename_i comma
          obtain ⟨more, close, read, outcome⟩ := ih (args ++ [(start, position)]) shorter
            (reading.next here (Bool.and_eq_true_iff.1 comma).1)
          have separates := (reading.separates_iff here).2 comma
          exact ⟨(start, position) :: more, close, by simpa using read,
            outcome.imp (.next begun reading.plain separates)
              (.next begun reading.plain separates)⟩
        · rename_i plain
          simp only [opens, closes, Bool.false_eq_true, if_false] at nested
          exact ih args shorter (reading.pass here level (by omega) positive
            (Bool.eq_false_iff.2 plain))

variable {tokens : List Token} {place : Place}

theorem reading_of_mem_callPlaces (member : place ∈ callPlaces tokens) :
    ∃ opening, tokens[place.position + 1]? = some opening ∧ opening.isPunct "(" = true ∧
      Reading tokens (place.position + 1) (place.position + 2) 1 (place.position + 2) := by
  obtain ⟨isPlace, calls⟩ := List.mem_filter.1 member
  simp only [Place.isCall, Bool.and_eq_true, Place.next, Token.punctAt, Option.any_eq_true]
    at calls
  obtain ⟨⟨-, opening, next, opens⟩, -⟩ := calls
  have here : tokens[place.position + 1]? = some opening := by
    rw [Place.getElem?_after isPlace 0, ← List.head?_eq_getElem?, next]
  have nested : nesting tokens (place.position + 1) (place.position + 2) = 1 := by
    have group : opening.opensGroup = true := by rw [Token.opensGroup, opens, Bool.true_or]
    rw [nesting_succ (Nat.le_refl _) here, nesting_self, group,
      Token.closesGroup_of_opensGroup group]
    rfl
  refine ⟨opening, here, opens, Nat.lt_succ_self _, Nat.le_refl _, nested, Nat.le_refl _, ?_, ?_⟩
  · intro earlier after before
    omega
  · rintro earlier before ⟨after, -, zero⟩
    obtain rfl : earlier = place.position + 1 := by omega
    rw [nested] at zero
    cases zero

/-- The arguments of a call tile the tokens between its parentheses, parted by the commas in no
other group; those of a call that is not closed tile what follows. -/
theorem callArguments_divide (member : place ∈ callPlaces tokens) :
    ∃ ranges, callArguments tokens place.position = .ok ranges ∧
      ranges.Spells tokens place.arguments ∧ ranges.Divide tokens place.position := by
  obtain ⟨isPlace, calls⟩ := List.mem_filter.1 member
  obtain ⟨ranges, read, spells⟩ := callArguments_spells isPlace calls
  refine ⟨ranges, read, spells, ?_⟩
  obtain ⟨opening, here, opens, reading⟩ := reading_of_mem_callPlaces member
  obtain ⟨inside, -⟩ := List.getElem?_eq_some_iff.1 here
  have steps : tokens.length - (place.position + 1) =
      tokens.length - (place.position + 2) + 1 := by omega
  rw [callArguments, steps, readArguments, item_eq_ok here, ok_bind, opens, Bool.true_or,
    if_pos rfl] at read
  obtain ⟨more, close, row, outcome⟩ := readArguments_row []
    (by omega : place.position + 2 + (tokens.length - (place.position + 2)) = tokens.length) reading
  obtain rfl : ranges = ⟨more, close⟩ := Except.ok.inj (read.symm.trans row)
  constructor
  case closed =>
    intro stop least
    rcases outcome with closes | runs
    · obtain rfl := closes.first.unique least
      refine ⟨rfl, closes.row.tiles, ?_, closes.last⟩
      rw [closes.none_iff]
      simp [eq_comm]
    · exact absurd least.1 (runs.never stop)
  case unclosed =>
    intro never
    rcases outcome with closes | runs
    · exact absurd closes.first.1 (never close)
    · refine ⟨?_, runs.row.tiles⟩
      rw [runs.close_eq]
      exact Nat.sub_add_cancel (Nat.lt_of_le_of_lt (Nat.zero_le _) inside)

theorem callArguments_divide_groups :
    let tokens := significant (scan "f(a, g[1, (2)], ) h(b, (")
    (∃ place ∈ callPlaces tokens,
      callArguments tokens place.position = .ok ⟨[(2, 3), (4, 12), (13, 13)], 13⟩ ∧
      ArgumentRanges.Divide ⟨[(2, 3), (4, 12), (13, 13)], 13⟩ tokens place.position) ∧
    ∃ place ∈ callPlaces tokens,
      callArguments tokens place.position = .ok ⟨[(16, 17), (18, 19)], 18⟩ ∧
      ArgumentRanges.Divide ⟨[(16, 17), (18, 19)], 18⟩ tokens place.position := by
  intro tokens
  let closed : Place := ⟨[], tokens[0]!, tokens.drop 1⟩
  let unclosed : Place := ⟨(tokens.take 14).reverse, tokens[14]!, tokens.drop 15⟩
  have closedCall : closed ∈ callPlaces tokens := by decide +kernel
  have openCall : unclosed ∈ callPlaces tokens := by decide +kernel
  have three : callArguments tokens closed.position =
      .ok ⟨[(2, 3), (4, 12), (13, 13)], 13⟩ := by rfl
  have two : callArguments tokens unclosed.position = .ok ⟨[(16, 17), (18, 19)], 18⟩ := by rfl
  refine ⟨⟨closed, closedCall, three, ?_⟩, ⟨unclosed, openCall, two, ?_⟩⟩
  · obtain ⟨ranges, read, -, divide⟩ := callArguments_divide closedCall
    exact Except.ok.inj (read.symm.trans three) ▸ divide
  · obtain ⟨ranges, read, -, divide⟩ := callArguments_divide openCall
    exact Except.ok.inj (read.symm.trans two) ▸ divide

end Checked

end CSurvey
