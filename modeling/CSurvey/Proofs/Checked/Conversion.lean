import CSurvey.Proofs.Checked.Basic
import CSurvey.Proofs.Token.Run
import CSurvey.Risk.Conversion

/-!
# Formats by position

The quotes that a literal has are single bytes, so they can be cut off.

A format is read byte by byte: past a percent sign, a star, the digits of a width
and the length modifiers.  Bytes beyond ASCII are none of these, so the reading of
the bytes and that of the characters agree.
-/

namespace CSurvey

open Text (isWide)

/-- A literal begins with a quote of one byte, and ends with another one if it is closed. -/
def Token.Quoted (tok : Token) : Prop :=
  tok.kind.isLiteral = true → ∃ opening inner, tok.text.toList = opening :: inner ∧
    isWide opening = false ∧
    (tok.terminated = true → ∃ body closing, inner = body ++ [closing] ∧ isWide closing = false)

theorem Token.HasInside.quoted {tok : Token} (inside : tok.HasInside) : tok.Quoted := by
  intro literal
  refine ⟨_, _, inside literal, tok.kind.isWide_quote, fun terminated => ?_⟩
  rw [Token.closing, if_pos terminated]
  exact ⟨_, _, rfl, tok.kind.isWide_quote⟩

theorem quoted_of_mem_scan {text : String} : ∀ tok ∈ scan text, tok.Quoted :=
  fun tok member => (hasInside_of_mem_scan tok member).quoted

namespace Checked

def literalBody (tok : Token) : Checked String :=
  if tok.kind.isLiteral then do
    let cs := tok.text.toList
    let inner ← cut cs 1 (Text.byteLength cs)
    if tok.terminated && !inner.isEmpty then
      let stop ← minus (Text.byteLength inner) 1
      return String.ofList (← cut inner 0 stop)
    return String.ofList inner
  else .ok tok.text

theorem literalBody_eq {tok : Token} (quoted : tok.Quoted) : literalBody tok = .ok tok.body := by
  rw [literalBody, Token.body]
  split
  · rename_i literal
    obtain ⟨opening, inner, text, narrow, ends⟩ := quoted literal
    have one := Text.utf8Size_of_not_isWide narrow
    have cutInner : cut (opening :: inner) 1 (Text.byteLength (opening :: inner)) = .ok inner := by
      simpa [one] using cut_middle [opening] inner []
    simp only [text, cutInner, ok_bind, List.tail_cons]
    cases terminated : tok.terminated with
    | false => rfl
    | true =>
      obtain ⟨body, closing, rfl, closingNarrow⟩ := ends terminated
      have cutBody : cut (body ++ [closing]) 0 (Text.byteLength body) = .ok body := by
        simpa using cut_middle [] body [closing]
      have size : Text.byteLength (body ++ [closing]) = Text.byteLength body + 1 := by
        simp [Text.utf8Size_of_not_isWide closingNarrow]
      simp [size, minus_eq_ok, cutBody]
  · rfl

end Checked

namespace FormatPosition

open Text (isWide bytes)

/-- No character beyond ASCII takes part in a conversion. -/
theorem next_of_isWide {c : Char} (wide : isWide c = true) (position : FormatPosition) :
    position.next c = literal ∧ position.storesUnbounded c = false := by
  have apart {d : Char} : isWide d = false → c ≠ d := Text.ne_of_isWide wide
  have digit : c.isDigit = false := Text.isDigit_of_isWide wide
  have modifier : isModifier c = false := by
    simp only [isModifier, List.contains_eq_any_beq, List.any_eq_false]
    intro d member same
    simp only [List.mem_cons, List.not_mem_nil, or_false] at member
    rcases member with rfl | rfl | rfl | rfl | rfl | rfl | rfl <;>
      exact apart (by decide) (eq_of_beq same)
  have percentSign : c ≠ '%' := apart rfl
  have star : c ≠ '*' := apart rfl
  have letter : c ≠ 's' := apart rfl
  have bracket : c ≠ '[' := apart rfl
  cases position <;>
    simp [next, storesUnbounded, isUnbounded, digit, modifier, percentSign, star, letter, bracket]

theorem hasUnbounded_wide {wides : List Char} (wide : ∀ c ∈ wides, isWide c = true)
    (rest : List Char) : literal.hasUnbounded (wides ++ rest) = literal.hasUnbounded rest := by
  induction wides with
  | nil => rfl
  | cons c wides ih =>
    obtain ⟨here, later⟩ := List.forall_mem_cons.1 wide
    obtain ⟨next, other⟩ := next_of_isWide here literal
    rw [List.cons_append, hasUnbounded, next, other, Bool.false_or, ih later]

theorem hasUnbounded_bytes (position : FormatPosition) (cs : List Char) :
    position.hasUnbounded (bytes cs) = position.hasUnbounded cs := by
  induction cs generalizing position with
  | nil => rfl
  | cons c rest ih =>
    obtain ⟨first, more, spelled, kept⟩ := Text.bytes_singleton c
    rcases kept with ⟨-, -, narrow⟩ | ⟨wide, firstWide, moreWide⟩
    · rw [Text.bytes_cons narrow, hasUnbounded, hasUnbounded, ih]
    · obtain ⟨next, other⟩ := next_of_isWide wide position
      obtain ⟨firstNext, firstOther⟩ := next_of_isWide firstWide position
      rw [Text.bytes_cons_eq, spelled, List.cons_append, hasUnbounded, firstNext, firstOther,
        hasUnbounded_wide moreWide, ih, hasUnbounded, next, other]

variable {bounded suppressed : Bool}

theorem isUnbounded_of_isModifier {c : Char} (modifier : isModifier c = true) :
    isUnbounded bounded suppressed c = false := by
  simp only [isModifier, List.contains_iff_mem, List.mem_cons, List.not_mem_nil, or_false]
    at modifier
  rcases modifier with rfl | rfl | rfl | rfl | rfl | rfl | rfl <;> simp [isUnbounded]

theorem hasUnbounded_modifiers (cs : List Char) :
    (modifiers bounded suppressed).hasUnbounded cs =
      ((cs.dropWhile isModifier).head?.any (isUnbounded bounded suppressed) ||
        literal.hasUnbounded (cs.dropWhile isModifier)) := by
  induction cs with
  | nil => rfl
  | cons c rest ih =>
    rw [hasUnbounded, List.dropWhile_cons]
    by_cases modifier : isModifier c = true
    · have other : isUnbounded bounded suppressed c = false := isUnbounded_of_isModifier modifier
      rw [if_pos modifier, ← ih]
      simp [next, storesUnbounded, modifier, other]
    · rw [if_neg modifier, hasUnbounded]
      simp [next, storesUnbounded, modifier]

theorem hasUnbounded_width (cs : List Char) :
    (width bounded suppressed).hasUnbounded cs =
      (modifiers (bounded || !(cs.takeWhile Char.isDigit).isEmpty) suppressed).hasUnbounded
        (cs.dropWhile Char.isDigit) := by
  induction cs generalizing bounded with
  | nil => rfl
  | cons c rest ih =>
    rw [List.takeWhile_cons, List.dropWhile_cons, hasUnbounded]
    by_cases digit : c.isDigit = true
    · have other : isUnbounded bounded suppressed c = false := by
        have letter : c ≠ 's' := by
          rintro rfl
          cases digit
        have bracket : c ≠ '[' := by
          rintro rfl
          cases digit
        simp [isUnbounded, letter, bracket]
      rw [if_pos digit, if_pos digit]
      simp [next, storesUnbounded, digit, other, ih]
    · rw [if_neg digit, if_neg digit, hasUnbounded]
      simp [next, storesUnbounded, digit]

theorem hasUnbounded_percent {cs : List Char} (single : cs.head? ≠ some '%') :
    percent.hasUnbounded cs =
      if cs.head? = some '*' then (width false true).hasUnbounded cs.tail
      else (width false false).hasUnbounded cs := by
  cases cs with
  | nil => rfl
  | cons c rest =>
    have notPercent : c ≠ '%' := by simpa using single
    by_cases star : c = '*'
    · subst star
      rfl
    · simp [hasUnbounded, next, storesUnbounded, notPercent, star]

end FormatPosition

namespace Checked

open FormatPosition (isModifier)

/-- Where the digits of a width end that begins at a position, and where the modifiers after it
end. -/
def conversionEnd (bytes : List Char) (digits : Nat) : Checked (Nat × Nat) := do
  let modifiers ← pass bytes Char.isDigit bytes.length digits
  let stop ← pass bytes isModifier bytes.length modifiers
  return (modifiers, stop)

/-- Whether the bytes of a format have an unbounded conversion from a position on. -/
def conversionFrom (bytes : List Char) : (steps position : Nat) → Checked Bool
  | 0, position => if position < bytes.length then .error .steps else .ok false
  | steps + 1, position =>
    if position < bytes.length then do
      let byte ← item bytes position
      if byte ≠ '%' then conversionFrom bytes steps (position + 1)
      else if bytes[position + 1]? = some '%' then conversionFrom bytes steps (position + 2)
      else
        let suppressed := bytes[position + 1]? == some '*'
        let digits := if suppressed then position + 2 else position + 1
        let (modifiers, stop) ← conversionEnd bytes digits
        let unbounded := modifiers ≤ digits && !suppressed &&
          (bytes[stop]? == some 's' || bytes[stop]? == some '[')
        if unbounded then return true
        conversionFrom bytes steps stop
    else .ok false

/-- Whether a format stores a string of any length. -/
def hasUnboundedConversion (format : String) : Checked Bool :=
  let bytes := Text.bytes format.toList
  conversionFrom bytes bytes.length 0

theorem conversionEnd_eq {bytes opened after : List Char} (whole : bytes = opened ++ after) :
    conversionEnd bytes opened.length =
      .ok (opened.length + (after.takeWhile Char.isDigit).length,
        opened.length + (after.takeWhile Char.isDigit).length +
          ((after.dropWhile Char.isDigit).takeWhile isModifier).length) := by
  have enough : after.length ≤ bytes.length := by simp [whole]
  have wholeRest : bytes = (opened ++ after.takeWhile Char.isDigit) ++
      after.dropWhile Char.isDigit := by
    rw [List.append_assoc, List.takeWhile_append_dropWhile, whole]
  have shorter : (after.dropWhile Char.isDigit).length ≤ bytes.length :=
    Nat.le_trans (List.dropWhile_suffix _).length_le enough
  have second := pass_eq_ok isModifier wholeRest shorter
  rw [List.length_append] at second
  rw [conversionEnd, pass_eq_ok _ whole enough, ok_bind, second]
  rfl

/-- What follows a percent sign and a star, if there is one, is read as a conversion. -/
theorem conversion_eq {bytes opened after : List Char} (whole : bytes = opened ++ after)
    {read : Nat → Checked Bool} (later : ∀ front rest, bytes = front ++ rest →
      rest.length ≤ after.length →
      read front.length = .ok (FormatPosition.literal.hasUnbounded rest)) (suppressed : Bool) :
    (do
      let (modifiers, stop) ← conversionEnd bytes opened.length
      let unbounded := modifiers ≤ opened.length && !suppressed &&
        (bytes[stop]? == some 's' || bytes[stop]? == some '[')
      if unbounded then return true
      read stop) = .ok ((FormatPosition.width false suppressed).hasUnbounded after) := by
  rw [conversionEnd_eq whole, ok_bind, FormatPosition.hasUnbounded_width,
    FormatPosition.hasUnbounded_modifiers]
  generalize digits : after.takeWhile Char.isDigit = width
  generalize rest : after.dropWhile Char.isDigit = middle
  generalize modifiers : middle.takeWhile isModifier = length
  generalize final : middle.dropWhile isModifier = last
  have split : bytes = (opened ++ width ++ length) ++ last := by
    rw [← modifiers, ← final, ← digits, List.append_assoc, List.takeWhile_append_dropWhile, ← rest,
      List.append_assoc, List.takeWhile_append_dropWhile, whole]
  have shorter : last.length ≤ after.length := by
    rw [← final, ← rest]
    exact Nat.le_trans (List.dropWhile_suffix _).length_le (List.dropWhile_suffix _).length_le
  have stop : opened.length + width.length + length.length =
      (opened ++ width ++ length).length := by
    simp [Nat.add_assoc]
  have ahead : bytes[(opened ++ width ++ length).length]? = last.head? := by
    rw [split, List.getElem?_append_right (Nat.le_refl _), Nat.sub_self, List.head?_eq_getElem?]
  have empty : decide (opened.length + width.length ≤ opened.length) = width.isEmpty := by
    cases width <;> simp
  have unbounded : (width.isEmpty && !suppressed &&
      (last.head? == some 's' || last.head? == some '[')) =
      last.head?.any (FormatPosition.isUnbounded (false || !width.isEmpty) suppressed) := by
    cases last.head? <;> simp [FormatPosition.isUnbounded]
  simp only [stop, ahead, later _ _ split shorter, empty, unbounded]
  cases last.head?.any (FormatPosition.isUnbounded (false || !width.isEmpty) suppressed) <;> rfl

section Steps

variable {bytes front rest : List Char} {steps : Nat}

theorem conversionFrom_end (steps : Nat) : conversionFrom bytes steps bytes.length = .ok false := by
  cases steps <;> rw [conversionFrom, if_neg (Nat.lt_irrefl _)]

/-- A percent sign that no other one follows opens a conversion, with a star or without. -/
theorem conversionFrom_percent (whole : bytes = front ++ '%' :: rest)
    (single : rest.head? ≠ some '%')
    (later : ∀ front left, bytes = front ++ left → left.length ≤ rest.length →
      conversionFrom bytes steps front.length = .ok (FormatPosition.literal.hasUnbounded left)) :
    conversionFrom bytes (steps + 1) front.length =
      .ok (FormatPosition.percent.hasUnbounded rest) := by
  have inside : front.length < bytes.length := by simp [whole]
  have ahead : bytes[front.length + 1]? = rest.head? := getElem?_after_split whole rfl
  rw [conversionFrom, if_pos inside, item_split whole rfl, ok_bind, ahead,
    if_neg (not_not_intro rfl), if_neg single, FormatPosition.hasUnbounded_percent single]
  by_cases star : rest.head? = some '*'
  · obtain ⟨rest, rfl⟩ := List.head?_eq_some_iff.1 star
    have split : bytes = (front ++ ['%', '*']) ++ rest := by simp [whole]
    have length : (front ++ ['%', '*']).length = front.length + 2 := by simp
    have read := conversion_eq split (fun front left eq le =>
      later front left eq (Nat.le_succ_of_le le)) true
    rw [length] at read
    rw [if_pos star]
    exact read
  · have split : bytes = (front ++ ['%']) ++ rest := by simp [whole]
    have length : (front ++ ['%']).length = front.length + 1 := by simp
    have read := conversion_eq split later false
    rw [length] at read
    have stored : (rest.head? == some '*') = false := by simpa using star
    rw [if_neg star, stored]
    exact read

theorem conversionFrom_eq (whole : bytes = front ++ rest) (enough : rest.length ≤ steps) :
    conversionFrom bytes steps front.length = .ok (FormatPosition.literal.hasUnbounded rest) := by
  induction steps generalizing front rest with
  | zero =>
    obtain rfl : rest = [] := List.eq_nil_of_length_eq_zero (Nat.le_zero.1 enough)
    rw [List.append_nil] at whole
    rw [← whole]
    exact conversionFrom_end 0
  | succ steps ih =>
    cases rest with
    | nil =>
      rw [List.append_nil] at whole
      rw [← whole]
      exact conversionFrom_end (steps + 1)
    | cons byte rest =>
      have shorter := Nat.le_of_succ_le_succ enough
      by_cases percent : byte = '%'
      · subst percent
        by_cases second : rest.head? = some '%'
        · obtain ⟨rest, rfl⟩ := List.head?_eq_some_iff.1 second
          have inside : front.length < bytes.length := by simp [whole]
          have ahead : bytes[front.length + 1]? = some '%' := getElem?_after_split whole rfl
          have split : bytes = (front ++ ['%', '%']) ++ rest := by simp [whole]
          have length : (front ++ ['%', '%']).length = front.length + 2 := by simp
          rw [conversionFrom, if_pos inside, item_split whole rfl, ok_bind,
            if_neg (not_not_intro rfl), if_pos ahead, ← length,
            ih split (Nat.le_of_succ_le shorter)]
          rfl
        · exact conversionFrom_percent whole second
            (fun _ _ split le => ih split (Nat.le_trans le shorter))
      · have inside : front.length < bytes.length := by simp [whole]
        have split : bytes = (front ++ [byte]) ++ rest := by simp [whole]
        have length : (front ++ [byte]).length = front.length + 1 := by simp
        have other : FormatPosition.literal.next byte = .literal := by
          simp [FormatPosition.next, percent]
        rw [conversionFrom, if_pos inside, item_split whole rfl, ok_bind, if_pos percent, ← length,
          ih split shorter, FormatPosition.hasUnbounded, other]
        rfl

end Steps

theorem hasUnboundedConversion_eq (format : String) :
    hasUnboundedConversion format = .ok (CSurvey.hasUnboundedConversion format) := by
  have read := conversionFrom_eq (List.nil_append (Text.bytes format.toList)).symm
    (Nat.le_refl _)
  rw [FormatPosition.hasUnbounded_bytes] at read
  exact read

end Checked

end CSurvey
