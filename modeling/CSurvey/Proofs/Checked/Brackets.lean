import CSurvey.Definition
import CSurvey.Proofs.Checked.Basic

/-!
# Brackets by position

One walk finds the mark that closes a bracket, counting levels down as well as
up.  A count goes down only after it went up, so it never goes below zero.
-/

namespace CSurvey

namespace Bracketed

variable {opening closing : String} {tokens : List Token} {group : Bracketed}

theorem eq_append_of_findClose {level : Nat} {inner : List Token}
    (found : findClose opening closing level inner tokens = some group) :
    ∃ more, tokens = more ++ group.close :: group.rest ∧ group.inner = inner.reverse ++ more := by
  fun_induction findClose opening closing level inner tokens with
  | case1 => cases found
  | case2 level inner tok rest opens ih =>
    obtain ⟨more, rfl, eq⟩ := ih found
    exact ⟨tok :: more, rfl, by simpa using eq⟩
  | case3 level inner tok rest notOpen closes last =>
    obtain rfl := Option.some.inj found
    exact ⟨[], rfl, by simp⟩
  | case4 level inner tok rest notOpen closes further ih =>
    obtain ⟨more, rfl, eq⟩ := ih found
    exact ⟨tok :: more, rfl, by simpa using eq⟩
  | case5 level inner tok rest notOpen notClose ih =>
    obtain ⟨more, rfl, eq⟩ := ih found
    exact ⟨tok :: more, rfl, by simpa using eq⟩

theorem eq_append_of_ofTokens? (found : ofTokens? opening closing tokens = some group) :
    ∃ first, tokens = first :: (group.inner ++ group.close :: group.rest) ∧
      first.isPunct opening = true := by
  cases tokens with
  | nil => cases found
  | cons first rest =>
    rw [ofTokens?] at found
    split at found
    · rename_i opens
      obtain ⟨more, rfl, eq⟩ := eq_append_of_findClose found
      rw [List.reverse_nil, List.nil_append] at eq
      exact ⟨first, by rw [eq], opens⟩
    · cases found

end Bracketed

namespace Checked

/-- The position of the mark that closes the last of `level` open marks, unless a token stops the
search before it. -/
def closeFrom (opening closing : String) (stops : Token → Bool) :
    List Token → (position level : Nat) → Checked (Option Nat)
  | [], _, _ => .ok none
  | tok :: rest, position, level =>
    if tok.isPunct opening then
      closeFrom opening closing stops rest (position + 1) (level + 1)
    else if tok.isPunct closing then do
      let level ← minus level 1
      if level = 0 then return some position
      closeFrom opening closing stops rest (position + 1) level
    else if stops tok then .ok none
    else closeFrom opening closing stops rest (position + 1) level

def closePosition (opening closing : String) (stops : Token → Bool) (tokens : List Token)
    (start : Nat) : Checked (Option Nat) :=
  closeFrom opening closing stops (tokens.drop start) start 0

variable {opening closing : String} {start level : Nat}

theorem closeFrom_eq_findClose (positive : 1 ≤ level) (inner rest : List Token) :
    closeFrom opening closing (fun _ => false) rest (start + inner.length) level =
      .ok ((Bracketed.findClose opening closing level inner rest).map
        (fun group => start + group.inner.length)) := by
  fun_induction Bracketed.findClose opening closing level inner rest with
  | case1 => rfl
  | case2 level inner tok rest opens ih =>
    rw [closeFrom, if_pos opens]
    exact ih (by omega)
  | case3 level inner tok rest notOpen closes last =>
    rw [closeFrom, if_neg notOpen, if_pos closes, minus_eq_ok positive, ok_bind,
      if_pos (by omega)]
    simp
  | case4 level inner tok rest notOpen closes further ih =>
    rw [closeFrom, if_neg notOpen, if_pos closes, minus_eq_ok positive, ok_bind,
      if_neg (by omega)]
    exact ih (by omega)
  | case5 level inner tok rest notOpen notClose ih =>
    rw [closeFrom, if_neg notOpen, if_neg notClose, if_neg Bool.false_ne_true]
    exact ih positive

/-- Whether a token never stands in a parameter list. -/
def endsParameters (tok : Token) : Bool :=
  tok.isPunct ";" || tok.isPunct Token.openBrace || tok.isPunct Token.closeBrace

theorem closeFrom_eq_paramList (positive : 1 ≤ level) (passed rest : List Token) :
    closeFrom "(" ")" endsParameters rest (start + passed.length) level =
      .ok ((Definition.paramList level passed rest).map
        (fun found => start + found.1.length)) := by
  fun_induction Definition.paramList level passed rest with
  | case1 => rfl
  | case2 level passed tok rest opens ih =>
    rw [closeFrom, if_pos opens]
    exact ih (by omega)
  | case3 level passed tok rest notOpen closes last =>
    rw [closeFrom, if_neg notOpen, if_pos closes, minus_eq_ok positive, ok_bind,
      if_pos (by omega)]
    simp
  | case4 level passed tok rest notOpen closes further ih =>
    rw [closeFrom, if_neg notOpen, if_pos closes, minus_eq_ok positive, ok_bind,
      if_neg (by omega)]
    exact ih (by omega)
  | case5 level passed tok rest notOpen notClose stops =>
    rw [closeFrom, if_neg notOpen, if_neg notClose, endsParameters, if_pos stops]
    rfl
  | case6 level passed tok rest notOpen notClose other ih =>
    rw [closeFrom, if_neg notOpen, if_neg notClose, endsParameters, if_neg other]
    exact ih positive

theorem closePosition_of_isPunct {stops : Token → Bool} {tokens front rest : List Token}
    {first : Token} (whole : tokens = front ++ first :: rest)
    (opens : first.isPunct opening = true) :
    closePosition opening closing stops tokens front.length =
      closeFrom opening closing stops rest (front.length + 1) 1 := by
  rw [closePosition, whole, List.drop_left, closeFrom, if_pos opens]

section Group

variable {tokens front rest : List Token} {group : Bracketed}

theorem closePosition_eq_ofTokens? (whole : tokens = front ++ rest)
    (opens : Token.punctAt tokens[front.length]? opening = true) :
    closePosition opening closing (fun _ => false) tokens front.length =
      .ok ((Bracketed.ofTokens? opening closing rest).map
        (fun group => front.length + 1 + group.inner.length)) := by
  cases rest with
  | nil => simp [whole, Token.punctAt] at opens
  | cons first rest =>
    rw [getElem?_split whole rfl, Token.punctAt, Option.any_some] at opens
    rw [closePosition_of_isPunct whole opens, Bracketed.ofTokens?, if_pos opens]
    exact closeFrom_eq_findClose (Nat.le_refl 1) [] rest

/-- Where the parts of a group stand that begins after `front`. -/
theorem item_group (whole : tokens = front ++ rest)
    (found : Bracketed.ofTokens? opening closing rest = some group) :
    let close := front.length + 1 + group.inner.length
    part tokens (front.length + 1) close = .ok group.inner ∧
    item tokens close = .ok group.close ∧
    tokens[close + 1]? = group.rest.head? ∧
    ∃ passed, tokens = passed ++ group.rest ∧ passed.length = close + 1 := by
  obtain ⟨first, rfl, -⟩ := Bracketed.eq_append_of_ofTokens? found
  have inner : tokens = (front ++ [first]) ++ (group.inner ++ group.close :: group.rest) := by
    simp [whole]
  have close : tokens = (front ++ first :: group.inner) ++ group.close :: group.rest := by
    simp [whole]
  have length : (front ++ first :: group.inner).length =
      front.length + 1 + group.inner.length := by
    simp [Nat.add_assoc, Nat.add_comm 1]
  refine ⟨?_, item_split close length, getElem?_after_split close length,
    front ++ first :: (group.inner ++ [group.close]), by simp [whole], ?_⟩
  · have middle := part_middle (front ++ [first]) group.inner (group.close :: group.rest)
    rw [← inner] at middle
    simpa using middle
  · simp
    omega

end Group

end Checked

end CSurvey
