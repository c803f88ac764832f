import CSurvey.Proofs.Checked.Call
import CSurvey.Risk.Match

/-!
# Checked allocations by position

Whether the result of an allocation is checked is read off the tokens before the
call, up to four back, and from each later use of the variable, up to two back.
-/

namespace CSurvey

namespace Arguments

/-- What ends a call before other tokens is a closing bracket. -/
theorem rest_eq_nil_of_isPunct (level : Nat) (args : List (List Token)) (current : List Token)
    (last : Token) (tokens : List Token)
    (opens : (collect level args current last tokens).close.isPunct "(" = true) :
    (collect level args current last tokens).rest = [] := by
  fun_induction collect level args current last tokens with
  | case1 => rfl
  | case2 level args current last tok rest opening ih => exact ih opens
  | case3 level args current last tok rest notOpen closes =>
    simp [opens] at notOpen
  | case4 level args current last tok rest notOpen closes inner ih => exact ih opens
  | case5 level args current last tok rest notOpen notClose comma ih => exact ih opens
  | case6 level args current last tok rest notOpen notClose other ih => exact ih opens

end Arguments

theorem Place.rest_eq_nil_of_isPunct {place : Place}
    (opens : place.arguments.close.isPunct "(" = true) : place.arguments.rest = [] := by
  obtain ⟨before, here, after⟩ := place
  cases after with
  | nil => rfl
  | cons opening rest => exact Arguments.rest_eq_nil_of_isPunct _ _ _ _ _ opens

namespace Checked

open RiskMatch (isComparison)

/-- The number of groups open after one more token on the way back; `none` if the last one is. -/
def levelBefore (tok : Token) (level : Nat) : Checked (Option Nat) :=
  if tok.text == ")" then .ok (some (level + 1))
  else if tok.text == "(" then do
    let level ← minus level 1
    return if level = 0 then none else some level
  else .ok (some level)

/-- The position of the parenthesis that opens the group that ends at a position. -/
def groupStart (tokens : List Token) : (position level : Nat) → Checked (Option Nat)
  | 0, level => do
    match ← levelBefore (← item tokens 0) level with
    | none => return some 0
    | some _ => return none
  | before + 1, level => do
    match ← levelBefore (← item tokens (before + 1)) level with
    | none => return some (before + 1)
    | some level => groupStart tokens before level

/-- The position of a call, or of the cast right before it. -/
def castStart (tokens : List Token) (call : Nat) : Checked (Option Nat) := do
  if Token.punctAt (← behind tokens call) ")" then
    groupStart tokens (← minus call 1) 0
  else return some call

/-- Whether a variable at a position is the whole condition of a test; `before` is the token right
before it. -/
def isConditionAt (tokens : List Token) (before : Token) (position : Nat) : Checked Bool := do
  if before.isPunct "(" && 2 ≤ position then
    let earlier ← item tokens (← minus position 2)
    return ["if", "while", "assert"].contains earlier.text &&
      Token.punctAt tokens[position + 1]? ")"
  return false

/-- Whether a variable is checked at a position. -/
def checksAt (tokens : List Token) (name : String) (position : Nat) : Checked Bool := do
  let tok ← item tokens position
  if tok.text ≠ name || !tok.isCode then return false
  let before ← item tokens (← minus position 1)
  if before.isPunct "!" || isComparison before || tokens[position + 1]?.any isComparison then
    return true
  isConditionAt tokens before position

/-- Whether a variable is checked at one of the positions from `position` on. -/
def checkedFrom (tokens : List Token) (name : String) : (steps position : Nat) → Checked Bool
  | 0, _ => .ok false
  | steps + 1, position => do
    if ← checksAt tokens name position then return true
    checkedFrom tokens name steps (position + 1)

/-- Whether `!(` stands before the variable that the result is stored in, which is assigned right
before position `start`. -/
def negatedBefore (tokens : List Token) (start : Nat) : Checked Bool := do
  if 4 ≤ start then
    let opening ← item tokens (← minus start 3)
    let negation ← item tokens (← minus start 4)
    return opening.isPunct "(" && negation.isPunct "!"
  else return false

/-- The token before the one right before position `start`. -/
def storedBefore (tokens : List Token) (start : Nat) : Checked (Option Token) := do
  if 2 ≤ start then return some (← item tokens (← minus start 2))
  else return none

/-- Whether the result of an allocation is checked; the call ends at position `close`. -/
def allocationChecked (tokens : List Token) (call close : Nat) : Checked Bool := do
  match ← castStart tokens call with
  | none => return false
  | some start =>
    match ← behind tokens start with
    | none => return false
    | some previous =>
      if previous.isPunct "return" then return true
      if !previous.isPunct "=" then return false
      let comparedInline := Token.punctAt tokens[close + 1]? ")" &&
        tokens[close + 2]?.any isComparison
      if comparedInline || (← negatedBefore tokens start) then return true
      match (← storedBefore tokens start).filter Token.isIdent with
      | none => return true
      | some stored =>
        checkedFrom tokens stored.text (tokens.length - (close + 1)) (close + 1)

theorem levelBefore_eq {tok : Token} {level : Nat} (inside : 1 ≤ level ∨ tok.text = ")") :
    ∃ next, levelBefore tok level = .ok next ∧ (∀ level ∈ next, 1 ≤ level) ∧
      ∀ rest, RiskMatch.skipGroupBack level (tok :: rest) =
        next.elim (some rest) (fun level => RiskMatch.skipGroupBack level rest) := by
  by_cases closes : tok.text = ")"
  · exact ⟨some (level + 1), by simp [levelBefore, closes], by simp,
      fun rest => by simp [RiskMatch.skipGroupBack, closes]⟩
  have positive : 1 ≤ level := by simpa [closes] using inside
  by_cases opens : tok.text = "("
  · by_cases last : level = 1
    · exact ⟨none, by simp [levelBefore, opens, last, minus], by simp,
        fun rest => by simp [RiskMatch.skipGroupBack, opens, last]⟩
    · have more : level - 1 ≠ 0 := by omega
      refine ⟨some (level - 1), by simp [levelBefore, opens, minus_eq_ok positive, more], ?_,
        fun rest => ?_⟩
      · simp
        omega
      · simp [RiskMatch.skipGroupBack, opens, show ¬ level ≤ 1 by omega]
  · exact ⟨some level, by simp [levelBefore, closes, opens], by simpa using positive,
      fun rest => by simp [RiskMatch.skipGroupBack, closes, opens]⟩

theorem groupStart_eq {tokens before rest : List Token} {tok : Token} {level : Nat}
    (whole : tokens = before.reverse ++ tok :: rest) (inside : 1 ≤ level ∨ tok.text = ")") :
    groupStart tokens before.length level =
      .ok ((RiskMatch.skipGroupBack level (tok :: before)).map List.length) := by
  induction before generalizing tok rest level with
  | nil =>
    obtain ⟨next, passes, -, skips⟩ := levelBefore_eq inside
    have here : item tokens 0 = .ok tok := item_split whole rfl
    rw [List.length_nil, groupStart, here, ok_bind, passes, ok_bind, skips]
    cases next <;> rfl
  | cons earlier before ih =>
    obtain ⟨next, passes, positive, skips⟩ := levelBefore_eq inside
    rw [List.length_cons, groupStart, item_split whole (by simp), ok_bind, passes, ok_bind, skips]
    cases next with
    | none => rfl
    | some level =>
      have split : tokens = before.reverse ++ earlier :: (tok :: rest) := by simp [whole]
      exact ih split (Or.inl (positive level rfl))

theorem suffix_of_skipGroupBack {level : Nat} {before left : List Token}
    (skipped : RiskMatch.skipGroupBack level before = some left) : left <:+ before := by
  fun_induction RiskMatch.skipGroupBack level before with
  | case1 => cases skipped
  | case2 level tok rest closes ih => exact (ih skipped).trans (List.suffix_cons ..)
  | case3 level tok rest notClose opens last =>
    obtain rfl := Option.some.inj skipped
    exact List.suffix_cons ..
  | case4 level tok rest notClose opens further ih => exact (ih skipped).trans (List.suffix_cons ..)
  | case5 level tok rest notClose notOpen ih => exact (ih skipped).trans (List.suffix_cons ..)

theorem suffix_of_beforeCast {before left : List Token}
    (skipped : RiskMatch.beforeCast before = some left) : left <:+ before := by
  rw [RiskMatch.beforeCast] at skipped
  split at skipped
  · exact suffix_of_skipGroupBack skipped
  · obtain rfl := Option.some.inj skipped
    exact List.suffix_refl _

variable {tokens : List Token} {place : Place}

theorem castStart_position (member : place ∈ Place.all tokens) :
    castStart tokens place.position =
      .ok ((RiskMatch.beforeCast place.before).map List.length) := by
  obtain ⟨front, eq, length, before⟩ := Place.exists_front member
  rw [castStart, behind_position member, ok_bind, RiskMatch.beforeCast, Place.previous]
  by_cases closes : Token.punctAt place.before.head? ")" = true
  · rw [if_pos closes, if_pos closes]
    cases nearest : place.before with
    | nil => simp [nearest, Token.punctAt] at closes
    | cons tok more =>
      have whole : tokens = more.reverse ++ tok :: (place.here :: place.after) := by
        rw [eq, ← List.reverse_reverse front, before, nearest]
        simp
      have text : tok.text = ")" := by
        simp only [nearest, Token.punctAt, List.head?_cons, Option.any_some, Token.isPunct,
          Bool.and_eq_true, beq_iff_eq] at closes
        exact closes.2
      rw [Place.position, nearest, List.length_cons, minus_eq_ok (Nat.le_add_left ..), ok_bind,
        Nat.add_sub_cancel]
      exact groupStart_eq whole (Or.inr text)
  · rw [if_neg closes, if_neg closes]
    rfl

section Later

variable {name : String} {front rest : List Token} {last tok : Token}

/-- Whether a variable is the whole condition of a test: `last` is the token before it, and
`earlier` the one before that. -/
def isCondition (earlier : Option Token) (last : Token) (next : Option Token) : Bool :=
  last.isPunct "(" && earlier.any (fun word => ["if", "while", "assert"].contains word.text) &&
    Token.punctAt next ")"

/-- Whether a token is a use of a variable that checks it. -/
def isCheck (name : String) (earlier : Option Token) (last tok : Token) (next : Option Token) :
    Bool :=
  tok.isCode && tok.text == name &&
    (last.isPunct "!" || isComparison last || next.any isComparison ||
      isCondition earlier last next)

theorem checkedLater_cons (earlier : Option Token) :
    RiskMatch.checkedLater name earlier (some last) (tok :: rest) =
      (isCheck name earlier last tok rest.head? ||
        RiskMatch.checkedLater name (some last) (some tok) rest) :=
  rfl

theorem isConditionAt_eq (whole : tokens = front ++ last :: tok :: rest) :
    isConditionAt tokens last (front.length + 1) =
      .ok (isCondition front.getLast? last rest.head?) := by
  have next : tokens[front.length + 1 + 1]? = rest.head? :=
    getElem?_after_split (by simp [whole] : tokens = (front ++ [last]) ++ tok :: rest) (by simp)
  rw [isConditionAt, isCondition, next]
  cases opens : last.isPunct "(" with
  | false => rfl
  | true =>
    rcases List.eq_nil_or_concat front with rfl | ⟨older, earlier, rfl⟩
    · rfl
    · have wholeEarlier : tokens = older ++ earlier :: last :: tok :: rest := by simp [whole]
      simp [minus, item_split wholeEarlier rfl]

theorem checksAt_eq (whole : tokens = front ++ last :: tok :: rest) :
    checksAt tokens name (front.length + 1) =
      .ok (isCheck name front.getLast? last tok rest.head?) := by
  have wholeHere : tokens = (front ++ [last]) ++ tok :: rest := by simp [whole]
  have here : item tokens (front.length + 1) = .ok tok := item_split wholeHere (by simp)
  have before : item tokens front.length = .ok last := item_split whole rfl
  have next : tokens[front.length + 1 + 1]? = rest.head? :=
    getElem?_after_split wholeHere (by simp)
  have unused : (tok.text ≠ name || !tok.isCode) = !(tok.isCode && tok.text == name) := by
    cases tok.isCode <;> simp [beq_eq_decide]
  rw [checksAt, here, ok_bind, isCheck, minus_eq_ok (Nat.le_add_left ..), ok_bind,
    Nat.add_sub_cancel, before, ok_bind, next, unused, isConditionAt_eq whole]
  cases tok.isCode && tok.text == name with
  | false => rfl
  | true => cases last.isPunct "!" || isComparison last || rest.head?.any isComparison <;> rfl

theorem checkedFrom_eq {earlier : Option Token} (whole : tokens = front ++ last :: rest)
    (known : earlier = front.getLast? ∨ last.isPunct "(" = false) :
    checkedFrom tokens name rest.length (front.length + 1) =
      .ok (RiskMatch.checkedLater name earlier (some last) rest) := by
  induction rest generalizing front last earlier with
  | nil => rfl
  | cons tok rest ih =>
    have same : isCheck name earlier last tok rest.head? =
        isCheck name front.getLast? last tok rest.head? := by
      rcases known with rfl | notOpen
      · rfl
      · simp [isCheck, isCondition, notOpen]
    have split : tokens = (front ++ [last]) ++ tok :: rest := by simp [whole]
    have later := ih split (Or.inl (by simp) : some last = _ ∨ _)
    rw [List.length_append, List.length_singleton] at later
    rw [List.length_cons, checkedFrom, checksAt_eq whole, ok_bind, checkedLater_cons, same, later]
    cases isCheck name front.getLast? last tok rest.head? <;> rfl

end Later

section Before

variable {before rest : List Token} {name : String}

theorem item_back (whole : tokens = before.reverse ++ rest) {back : Nat} {tok : Token}
    (found : before[back]? = some tok) :
    item tokens (before.length - (back + 1)) = .ok tok := by
  have inside := (List.getElem?_eq_some_iff.1 found).1
  apply item_eq_ok
  rw [whole, List.getElem?_append_left (by rw [List.length_reverse]; omega),
    List.getElem?_reverse (by omega), ← found]
  congr 1
  omega

theorem negatedBefore_eq (whole : tokens = before.reverse ++ rest) :
    negatedBefore tokens before.length =
      .ok (Token.punctAt before[2]? "(" && Token.punctAt before[3]? "!") := by
  rw [negatedBefore]
  by_cases far : 4 ≤ before.length
  · have opening : before[2]? = some before[2] := List.getElem?_eq_getElem (by omega)
    have negation : before[3]? = some before[3] := List.getElem?_eq_getElem (by omega)
    rw [if_pos far, minus_eq_ok (by omega), ok_bind, item_back whole opening, ok_bind,
      minus_eq_ok far, ok_bind, item_back whole negation, opening, negation]
    rfl
  · have missing : before[3]? = none := List.getElem?_eq_none (by omega)
    rw [if_neg far, missing, Token.punctAt, Token.punctAt, Option.any_none, Bool.and_false]
    rfl

theorem storedBefore_eq (whole : tokens = before.reverse ++ rest) :
    storedBefore tokens before.length = .ok before[1]? := by
  rw [storedBefore]
  by_cases far : 2 ≤ before.length
  · have stored : before[1]? = some before[1] := List.getElem?_eq_getElem (by omega)
    rw [if_pos far, minus_eq_ok far, ok_bind, item_back whole stored, stored]
    rfl
  · have missing : before[1]? = none := List.getElem?_eq_none (by omega)
    rw [if_neg far, missing]
    rfl

end Before

/-- The uses after a call are those that the analysis of its arguments leaves. -/
theorem checkedFrom_spells {ranges : ArgumentRanges}
    (spells : ranges.Spells tokens place.arguments) (name : String) :
    checkedFrom tokens name (tokens.length - (ranges.close + 1)) (ranges.close + 1) =
      .ok (RiskMatch.checkedLater name none (some place.arguments.close) place.arguments.rest) := by
  obtain ⟨front, whole, length⟩ := spells.exists_front
  have steps : tokens.length - (ranges.close + 1) = place.arguments.rest.length := by
    rw [← spells.rest, List.length_drop]
  rw [steps, ← length]
  cases opens : place.arguments.close.isPunct "(" with
  | false => exact checkedFrom_eq whole (Or.inr opens)
  | true =>
    rw [Place.rest_eq_nil_of_isPunct opens]
    rfl

theorem allocationChecked_position {ranges : ArgumentRanges} (member : place ∈ Place.all tokens)
    (spells : ranges.Spells tokens place.arguments) :
    allocationChecked tokens place.position ranges.close =
      .ok (RiskMatch.isCheckedAllocation place) := by
  rw [allocationChecked, castStart_position member, ok_bind]
  simp only [RiskMatch.isCheckedAllocation]
  cases skipped : RiskMatch.beforeCast place.before with
  | none => rfl
  | some left =>
    obtain ⟨front, eq, length, before⟩ := Place.exists_front member
    obtain ⟨passed, split⟩ := suffix_of_beforeCast skipped
    have whole : tokens = left.reverse ++ (passed.reverse ++ place.here :: place.after) := by
      rw [eq, ← List.reverse_reverse front, before, ← split, List.reverse_append,
        List.append_assoc]
    have previous : behind tokens left.length = .ok left.head? := by
      rw [whole, ← List.length_reverse, behind_append, List.getLast?_reverse]
    have next : tokens[ranges.close + 1]? = place.arguments.rest.head? := by
      rw [← spells.rest, List.head?_drop]
    have second : tokens[ranges.close + 2]? = place.arguments.rest[1]? := by
      rw [← spells.rest, List.getElem?_drop]
    simp only [Option.map_some, previous, ok_bind]
    cases left with
    | nil => rfl
    | cons previous target =>
      simp only [List.head?_cons, negatedBefore_eq whole, storedBefore_eq whole, ok_bind, next,
        second, List.getElem?_cons_succ, ← List.head?_eq_getElem?]
      split
      · rfl
      split
      · rfl
      split
      · rfl
      cases target.head?.filter Token.isIdent with
      | none => rfl
      | some stored => exact checkedFrom_spells spells stored.text

end Checked

end CSurvey
