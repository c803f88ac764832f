import CSurvey.Metrics
import CSurvey.Proofs.Checked.Basic
import CSurvey.Proofs.Checked.Call
import CSurvey.Signals

/-!
# Bodies by position

The metrics and the signals of a body, with every look at a token checked.  Measuring
looks back by one token, and counting parameters looks at the only token of a
parameter list.  An octal number is read after a cut that takes its leading zero off.
-/

namespace CSurvey.Checked

open Metrics (Progress)

def countParameters (params : List Token) : Checked Nat := do
  let code := params.filter Token.isCode
  if code.isEmpty then return 0
  if code.length = 1 then
    let only ← item code 0
    if only.text == "void" then return 0
  return topLevelCommas 0 code + 1

def measureFrom (body : List Token) (depth : Nat) :
    List Token → (position : Nat) → Progress → Checked Progress
  | [], _, progress => .ok progress
  | tok :: rest, position, progress => do
    let previous ← if tok.isCode then behind body position else .ok progress.previous
    measureFrom body depth rest (position + 1) ({ progress with previous }.step depth tok)

def measure (body : List Token) (depth : Nat) (params : List Token) (text : List Char) :
    Checked Metrics := do
  let parameterCount ← countParameters params
  let start : Metrics :=
    { Metrics.zero with
      lineCount := Text.nonBlankLines text
      parameterCount
      cyclomatic := 1 }
  let last ← measureFrom body depth body 0 ⟨start, [], false, none⟩
  return last.metrics

theorem countParameters_eq (params : List Token) :
    countParameters params = .ok (CSurvey.countParameters params) := by
  unfold countParameters CSurvey.countParameters
  match params.filter Token.isCode with
  | [] => rfl
  | [only] =>
    by_cases nothing : only.text = "void" <;> simp [item, nothing]
  | first :: second :: rest => simp

theorem measureFrom_eq {body front rest : List Token} {depth : Nat} {progress : Progress}
    (whole : body = front ++ rest) (previous : progress.previous = front.getLast?) :
    measureFrom body depth rest front.length progress =
      .ok (rest.foldl (Progress.step depth) progress) := by
  induction rest generalizing front progress with
  | nil => rfl
  | cons tok rest ih =>
    have looked : behind body front.length = .ok progress.previous := by
      rw [previous, whole, behind_append]
    have next : (progress.step depth tok).previous = (front ++ [tok]).getLast? := by
      rw [Progress.step]
      split <;> simp
    have later := ih (by simp [whole] : body = (front ++ [tok]) ++ rest) next
    rw [measureFrom, looked, ite_self, ok_bind, List.foldl_cons, ← later]
    simp

theorem measure_eq (body : List Token) (depth : Nat) (params : List Token) (text : List Char) :
    measure body depth params text = .ok (CSurvey.measure body depth params text) := by
  have counted (start : Metrics) : measureFrom body depth body 0 ⟨start, [], false, none⟩ =
      .ok (body.foldl (Progress.step depth) ⟨start, [], false, none⟩) :=
    measureFrom_eq (List.nil_append body).symm rfl
  rw [measure, countParameters_eq, ok_bind]
  simp only [counted, ok_bind, pure_eq_ok]
  rfl

def wholeNumber? (text : String) : Checked (Option Nat) := do
  let isSuffix (c : Char) : Bool := c == 'u' || c == 'U' || c == 'l' || c == 'L'
  let trimmed := (text.toList.reverse.dropWhile isSuffix).reverse
  if ['0', 'x'].isPrefixOf trimmed || ['0', 'X'].isPrefixOf trimmed then
    return Signals.numeral? 16 (trimmed.drop 2)
  if 1 < Text.byteLength trimmed && trimmed.head? == some '0' then
    let digits ← cut trimmed 1 (Text.byteLength trimmed)
    return Signals.numeral? 8 digits
  return Signals.numeral? 10 trimmed

section Body

variable (body : List Token) (position : Nat)

/-- Whether the token at a position is a number of value ten or more. -/
def isMagic : Checked Bool := do
  let tok ← item body position
  if !tok.isNumber then return false
  return (← wholeNumber? tok.text).any (10 ≤ ·)

/-- Whether the token at a position is a variable of one letter. -/
def isShort : Checked Bool := do
  let tok ← item body position
  return tok.isName && tok.text.length == 1 && !Token.punctAt body[position + 1]? "("

/-- Whether a negative number or a value that stands for failure is returned at a position. -/
def returnsFailure : Checked Bool := do
  let tok ← item body position
  let first := body[position + 1]?.map Token.text
  let second := body[position + 2]?.map Token.text
  return tok.isPunct "return" &&
    (first.any ["NULL", "0xffffffff", "EOF"].contains ||
      (first == some "-" && second.any (fun word => word.toList.head?.any Char.isDigit)))

/-- Whether a comparison against `NULL` stands at a position. -/
def checksNull : Checked Bool := do
  let tok ← item body position
  let previous ← behind body position
  return tok.isPunct "NULL" &&
    (previous.any Signals.isEquality || body[position + 1]?.any Signals.isEquality)

end Body

def collectSignals (body : List Token) : Checked Signals := do
  let positions := List.range body.length
  let magic ← textsAt body (← select (isMagic body) positions)
  let short ← textsAt body (← select (isShort body) positions)
  let failures ← select (returnsFailure body) positions
  let nulls ← select (checksNull body) positions
  return {
    magicNumbers := (Tally.ofNames magic).names
    shortIdentifiers := (Tally.ofNames short).names
    returnsErrorCode := !failures.isEmpty
    usesErrno := body.any (·.isPunct "errno")
    nullChecks := nulls.length }

theorem wholeNumber?_eq (text : String) : wholeNumber? text = .ok (Signals.wholeNumber? text) := by
  simp only [wholeNumber?, Signals.wholeNumber?]
  generalize (text.toList.reverse.dropWhile _).reverse = trimmed
  match trimmed with
  | [] => rfl
  | [c] =>
    by_cases zero : c = '0'
    · subst zero
      rfl
    · simp [zero, List.isPrefixOf]
  | c :: d :: rest =>
    by_cases zero : c = '0'
    · subst zero
      have one : '0'.utf8Size = 1 := rfl
      have digits : cut ('0' :: d :: rest) 1 (Text.byteLength ('0' :: d :: rest)) =
          .ok (d :: rest) := by
        simpa [one] using cut_middle ['0'] (d :: rest) []
      have long : 1 < Text.byteLength ('0' :: d :: rest) := by
        have positive := d.utf8Size_pos
        simp only [Text.byteLength_cons, one]
        omega
      generalize Text.byteLength ('0' :: d :: rest) = size at digits long ⊢
      by_cases lower : d = 'x'
      · subst lower
        rfl
      by_cases upper : d = 'X'
      · subst upper
        rfl
      · simp [List.isPrefixOf, Ne.symm lower, Ne.symm upper, digits, long]
    · simp [zero, Ne.symm zero, List.isPrefixOf]

variable {body : List Token} {place : Place}

theorem isMagic_position (member : place ∈ Place.all body) :
    isMagic body place.position = .ok (Signals.isMagic place.here) := by
  rw [isMagic, item_position member, ok_bind, Signals.isMagic, wholeNumber?_eq]
  cases place.here.isNumber <;> rfl

theorem isShort_position (member : place ∈ Place.all body) :
    isShort body place.position = .ok (Signals.isShort place) := by
  rw [isShort, item_position member, ok_bind, Place.getElem?_after member 0, Signals.isShort,
    Place.next, List.head?_eq_getElem?]
  rfl

theorem returnsFailure_position (member : place ∈ Place.all body) :
    returnsFailure body place.position = .ok (Signals.returnsFailure place) := by
  have first := Place.getElem?_after member 0
  have second := Place.getElem?_after member 1
  rw [returnsFailure, item_position member, ok_bind, Signals.returnsFailure, first, second]
  cases after : place.after with
  | nil => simp
  | cons next rest => cases rest <;> simp

theorem checksNull_position (member : place ∈ Place.all body) :
    checksNull body place.position = .ok (Signals.checksNull place) := by
  rw [checksNull, item_position member, ok_bind, behind_position member, ok_bind,
    Place.getElem?_after member 0, Signals.checksNull, Place.next, List.head?_eq_getElem?]
  rfl

theorem collectSignals_eq (body : List Token) :
    collectSignals body = .ok (Signals.ofTokens body) := by
  have texts (holds : Place → Bool) :
      textsAt body (((Place.all body).filter holds).map Place.position) =
        .ok (((Place.all body).filter holds).map (fun place => place.here.text)) :=
    textsAt_position (List.filter_sublist ..).subset
  rw [collectSignals, ← Place.map_position_all]
  simp only [select_map (fun place => isMagic_position), select_map (fun place => isShort_position),
    select_map (fun place => returnsFailure_position),
    select_map (fun place => checksNull_position), ok_bind, texts, pure_eq_ok]
  have magic : ((Place.all body).filter (fun place => Signals.isMagic place.here)).map
      (fun place => place.here.text) = (body.filter Signals.isMagic).map Token.text := by
    conv => rhs; rw [← Place.map_here_all body, List.filter_map, List.map_map]
    rfl
  have failure : (!(((Place.all body).filter Signals.returnsFailure).map Place.position).isEmpty) =
      (Place.all body).any Signals.returnsFailure := by
    rw [Bool.eq_iff_iff]
    simp
  rw [magic, failure, List.length_map, ← List.countP_eq_length_filter]
  rfl

end CSurvey.Checked
