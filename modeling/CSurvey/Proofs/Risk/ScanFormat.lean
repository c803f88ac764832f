import CSurvey.Proofs.Checked.Conversion
import Mathlib.Algebra.Ring.Parity
import Mathlib.Data.List.DropRight

/-!
# The conversions of a format

The scanning functions read a format from left to right: characters as they are, `%%`,
and conversions.  A conversion `[` goes on to the bracket that closes its set, where a
bracket right at the beginning is a member.  The search for unbounded conversions reads the
letter of a conversion again, and with it the set.  It goes astray in two places: a letter
that is a percent sign opens a conversion, and the members of a set are taken for a format.
-/

namespace CSurvey

open FormatPosition (isModifier)

/-- A conversion of a format. -/
structure Conversion where
  suppressed : Bool
  width : List Char
  modifiers : List Char
  /-- `none` where the format ends before it. -/
  letter : Option Char
  /-- What follows a letter `[`, to the bracket that closes the set or the end of the format. -/
  set : List Char
deriving DecidableEq, Repr

namespace Conversion

/-- A string is stored, and there is no width. -/
def isUnbounded (conversion : Conversion) : Bool :=
  !conversion.suppressed && conversion.width.isEmpty &&
    (conversion.letter == some 's' || conversion.letter == some '[')

/-- What is in front of the letter, after the percent sign. -/
def opening (conversion : Conversion) : List Char :=
  (if conversion.suppressed then ['*'] else []) ++ conversion.width ++ conversion.modifiers

/-- The text of the conversion, after the percent sign. -/
def chars (conversion : Conversion) : List Char :=
  conversion.opening ++ conversion.letter.toList ++ conversion.set

/-- What a set begins with before a bracket can close it. -/
def leading : List Char → List Char
  | '^' :: ']' :: _ => ['^', ']']
  | '^' :: _ => ['^']
  | ']' :: _ => [']']
  | _ => []

/-- The set that a text begins with, and the bracket that closes it if there is one. -/
def setOf (cs : List Char) : List Char :=
  let members := cs.drop (leading cs).length
  leading cs ++ members.takeWhile (· ≠ ']') ++ (members.dropWhile (· ≠ ']')).take 1

/-- What follows the percent sign and the star of a conversion. -/
def numbered (cs : List Char) : List Char :=
  if cs.head? = some '*' then cs.tail else cs

/-- What follows the opening of a conversion. -/
def lettered (cs : List Char) : List Char :=
  ((numbered cs).dropWhile Char.isDigit).dropWhile isModifier

/-- The conversion after a percent sign, and what follows it. -/
def read (cs : List Char) : Conversion × List Char :=
  let set := if (lettered cs).head? = some '[' then setOf (lettered cs).tail else []
  ({ suppressed := cs.head? == some '*'
     width := (numbered cs).takeWhile Char.isDigit
     modifiers := ((numbered cs).dropWhile Char.isDigit).takeWhile isModifier
     letter := (lettered cs).head?
     set },
   (lettered cs).tail.drop set.length)

theorem prefix_leading (cs : List Char) : leading cs <+: cs := by
  unfold leading
  split <;> simp

/-- A set ends with the bracket that closes it, or with the text. -/
theorem setOf_closed_or_eq (cs : List Char) :
    (∃ members, setOf cs = members ++ [']']) ∨ setOf cs = cs := by
  have begins := List.prefix_iff_eq_append.1 (prefix_leading cs)
  have parts := List.takeWhile_append_dropWhile (p := (· ≠ ']'))
    (l := cs.drop (leading cs).length)
  rw [setOf]
  cases closing : (cs.drop (leading cs).length).dropWhile (· ≠ ']') with
  | nil =>
    rw [closing, List.append_nil] at parts
    exact Or.inr (by rw [parts, List.take_nil, List.append_nil, begins])
  | cons bracket rest =>
    have isBracket := List.head?_dropWhile_not (· ≠ ']') (cs.drop (leading cs).length)
    rw [closing] at isBracket
    obtain rfl : bracket = ']' := by simpa using isBracket
    exact Or.inl ⟨_, rfl⟩

theorem prefix_setOf (cs : List Char) : setOf cs <+: cs := by
  have begins := List.prefix_iff_eq_append.1 (prefix_leading cs)
  have parts := List.takeWhile_append_dropWhile (p := (· ≠ ']'))
    (l := cs.drop (leading cs).length)
  refine ⟨((cs.drop (leading cs).length).dropWhile (· ≠ ']')).drop 1, ?_⟩
  rw [setOf, List.append_assoc, List.take_append_drop, List.append_assoc, parts, begins]

theorem opening_read (cs : List Char) : (read cs).1.opening ++ lettered cs = cs := by
  have star : (if cs.head? = some '*' then ['*'] else []) ++ numbered cs = cs := by
    rw [numbered]
    split
    · rename_i first
      exact (List.eq_cons_of_mem_head? first).symm
    · rfl
  simp only [opening, read, lettered, beq_iff_eq, List.append_assoc,
    List.takeWhile_append_dropWhile, star]

theorem letter_read (cs : List Char) :
    (read cs).1.letter.toList ++ ((read cs).1.set ++ (read cs).2) = lettered cs := by
  simp only [read]
  cases lettered cs with
  | nil => rfl
  | cons letter rest =>
    have set : (if letter = '[' then setOf rest else []) <+: rest := by
      split
      · exact prefix_setOf rest
      · exact List.nil_prefix
    simpa using List.prefix_iff_eq_append.1 set

/-- A conversion and what follows it spell the text that is read. -/
theorem chars_read (cs : List Char) : (read cs).1.chars ++ (read cs).2 = cs := by
  rw [chars, List.append_assoc, List.append_assoc, letter_read, opening_read]

end Conversion

/-- A part of a format. -/
inductive FormatItem where
  | plain (c : Char)
  /-- `%%` -/
  | percent
  | conversion (conversion : Conversion)
deriving DecidableEq, Repr

/-- The text of a part. -/
def FormatItem.chars : FormatItem → List Char
  | plain c => [c]
  | percent => ['%', '%']
  | conversion parts => '%' :: parts.chars

/-- The parts of a format, from left to right. -/
def formatItems : List Char → List FormatItem
  | [] => []
  | '%' :: '%' :: rest => .percent :: formatItems rest
  | '%' :: rest => .conversion (Conversion.read rest).1 :: formatItems (Conversion.read rest).2
  | c :: rest => .plain c :: formatItems rest
termination_by cs => cs.length
decreasing_by
  · rw [List.length_cons, List.length_cons]
    omega
  · have whole := congrArg List.length (Conversion.chars_read rest)
    rw [List.length_append] at whole
    rw [List.length_cons]
    omega
  · exact Nat.lt_succ_self _

theorem flatMap_chars_formatItems (cs : List Char) :
    (formatItems cs).flatMap FormatItem.chars = cs := by
  fun_induction formatItems cs with
  | case1 => rfl
  | case2 rest ih => rw [List.flatMap_cons, ih]; rfl
  | case3 rest single ih =>
    rw [List.flatMap_cons, ih]
    exact congrArg (List.cons '%') (Conversion.chars_read rest)
  | case4 c rest _ _ ih => rw [List.flatMap_cons, ih]; rfl

/-- Whether a text begins with length modifiers and then `s` or `[`. -/
def storesString (cs : List Char) : Bool :=
  (cs.dropWhile isModifier).head?.any (fun c => c == 's' || c == '[')

namespace FormatPosition

open Conversion (lettered)

/-- Where the search stands between two parts: a percent sign ahead or not. -/
def between (ahead : Bool) : FormatPosition :=
  if ahead then percent else literal

theorem hasUnbounded_dropWhile {p : Char → Bool} (stops : p '%' = false) (cs : List Char) :
    literal.hasUnbounded (cs.dropWhile p) = literal.hasUnbounded cs := by
  induction cs with
  | nil => rfl
  | cons c rest ih =>
    rw [List.dropWhile_cons]
    split
    · rename_i passes
      have other : c ≠ '%' := by
        rintro rfl
        exact absurd passes (by simp [stops])
      rw [ih, hasUnbounded]
      simp [next, storesUnbounded, other]
    · rfl

/-- The opening of a conversion has no percent sign. -/
theorem hasUnbounded_lettered (cs : List Char) :
    literal.hasUnbounded (lettered cs) = literal.hasUnbounded cs := by
  rw [lettered, hasUnbounded_dropWhile (by decide), hasUnbounded_dropWhile (by decide),
    Conversion.numbered]
  split
  · rename_i star
    obtain ⟨rest, rfl⟩ := List.head?_eq_some_iff.1 star
    rfl
  · rfl

theorem hasUnbounded_percent_read {cs : List Char} (single : cs.head? ≠ some '%') :
    percent.hasUnbounded cs =
      ((Conversion.read cs).1.isUnbounded || literal.hasUnbounded (lettered cs)) := by
  have letter (bounded suppressed : Bool) (letter : Option Char) :
      letter.any (isUnbounded bounded suppressed) =
        (!suppressed && !bounded && (letter == some 's' || letter == some '[')) := by
    cases letter <;> simp [isUnbounded, Bool.and_comm]
  have passed (suppressed : Bool) (rest : List Char) :
      (width false suppressed).hasUnbounded rest =
        (!suppressed && (rest.takeWhile Char.isDigit).isEmpty &&
            (((rest.dropWhile Char.isDigit).dropWhile isModifier).head? == some 's' ||
              ((rest.dropWhile Char.isDigit).dropWhile isModifier).head? == some '[') ||
          literal.hasUnbounded ((rest.dropWhile Char.isDigit).dropWhile isModifier)) := by
    rw [hasUnbounded_width, hasUnbounded_modifiers, letter, Bool.false_or, Bool.not_not]
  rw [hasUnbounded_percent single]
  by_cases star : cs.head? = some '*'
  · simp [passed, Conversion.isUnbounded, Conversion.read, lettered, Conversion.numbered, star]
  · have unsuppressed : (cs.head? == some '*') = false := beq_eq_false_iff_ne.2 star
    simp [passed, Conversion.isUnbounded, Conversion.read, lettered, Conversion.numbered, star,
      unsuppressed]

theorem isModifier_of_isDigit {c : Char} (digit : c.isDigit = true) : isModifier c = false := by
  rw [← Bool.not_eq_true]
  intro modifier
  simp only [isModifier, List.contains_iff_mem, List.mem_cons, List.not_mem_nil, or_false]
    at modifier
  rcases modifier with rfl | rfl | rfl | rfl | rfl | rfl | rfl <;> cases digit

theorem isUnbounded_read (cs : List Char) :
    (Conversion.read cs).1.isUnbounded = storesString cs := by
  cases cs with
  | nil => rfl
  | cons c rest =>
    by_cases star : c = '*'
    · subst star
      rfl
    by_cases digit : c.isDigit = true
    · have modifier := isModifier_of_isDigit digit
      have notString : c ≠ 's' := by
        rintro rfl
        cases digit
      have notSet : c ≠ '[' := by
        rintro rfl
        cases digit
      simp [Conversion.isUnbounded, Conversion.read, Conversion.numbered, storesString, star,
        digit, modifier, notString, notSet]
    · cases letter : ((c :: rest).dropWhile isModifier).head? <;>
        simp [Conversion.isUnbounded, Conversion.read, lettered, Conversion.numbered,
          storesString, star, digit, letter]

variable {ahead : Bool} {c : Char} {cs : List Char}

theorem hasUnbounded_between_percent :
    (between ahead).hasUnbounded ('%' :: cs) = (between !ahead).hasUnbounded cs := by
  cases ahead <;> rfl

theorem hasUnbounded_between_plain (other : c ≠ '%') :
    (between ahead).hasUnbounded (c :: cs) =
      (ahead && storesString (c :: cs) || literal.hasUnbounded cs) := by
  have passed : literal.hasUnbounded (c :: cs) = literal.hasUnbounded cs := by
    rw [hasUnbounded]
    simp [next, storesUnbounded, other]
  cases ahead with
  | false => exact passed
  | true =>
    rw [between, if_pos rfl, hasUnbounded_percent_read (by simpa using other), isUnbounded_read,
      hasUnbounded_lettered, passed, Bool.true_and]

/-- A bracket that closes a set ends what is read of it. -/
theorem hasUnbounded_bracket (position : FormatPosition) (members rest : List Char) :
    position.hasUnbounded (members ++ ']' :: rest) =
      (position.hasUnbounded (members ++ [']']) || literal.hasUnbounded rest) := by
  induction members generalizing position with
  | nil =>
    have closes : position.next ']' = literal ∧ position.storesUnbounded ']' = false := by
      cases position <;> simp [next, storesUnbounded, isUnbounded] <;> decide
    simp only [List.nil_append, hasUnbounded, closes, Bool.or_false, Bool.false_or]
  | cons c members ih => simp only [List.cons_append, hasUnbounded, ih, Bool.or_assoc]

theorem hasUnbounded_setOf (cs : List Char) :
    literal.hasUnbounded cs = (literal.hasUnbounded (Conversion.setOf cs) ||
      literal.hasUnbounded (cs.drop (Conversion.setOf cs).length)) := by
  rcases Conversion.setOf_closed_or_eq cs with ⟨members, set⟩ | set
  · have whole := List.prefix_iff_eq_append.1 (Conversion.prefix_setOf cs)
    have read := hasUnbounded_bracket literal members (cs.drop (Conversion.setOf cs).length)
    rwa [List.append_cons, ← set, whole] at read
  · rw [set, List.drop_length, hasUnbounded, Bool.or_false]

theorem hasUnbounded_lettered_eq (cs : List Char) :
    literal.hasUnbounded (lettered cs) =
      (literal.hasUnbounded (Conversion.read cs).1.set ||
        (between ((Conversion.read cs).1.letter == some '%')).hasUnbounded
          (Conversion.read cs).2) := by
  simp only [Conversion.read]
  cases lettered cs with
  | nil => rfl
  | cons letter rest =>
    by_cases bracket : letter = '['
    · subst bracket
      exact hasUnbounded_setOf rest
    by_cases percentSign : letter = '%'
    · subst percentSign
      rfl
    · have passed : (between false).hasUnbounded (letter :: rest) =
          (false && storesString (letter :: rest) || literal.hasUnbounded rest) :=
        hasUnbounded_between_plain percentSign
      simpa [between, bracket, percentSign, hasUnbounded] using passed

theorem hasUnbounded_between_conversion (single : cs.head? ≠ some '%') :
    (between ahead).hasUnbounded ('%' :: cs) =
      (!ahead && (Conversion.read cs).1.isUnbounded ||
        (literal.hasUnbounded (Conversion.read cs).1.set ||
          (between ((Conversion.read cs).1.letter == some '%')).hasUnbounded
            (Conversion.read cs).2)) := by
  rw [hasUnbounded_between_percent, ← hasUnbounded_lettered_eq]
  cases ahead with
  | false => exact hasUnbounded_percent_read single
  | true => exact (hasUnbounded_lettered cs).symm

end FormatPosition

theorem exists_cons_eq_append {α : Type} {first : α} {rest : List α}
    {p : List α → List α → Prop} :
    (∃ front back, first :: rest = front ++ back ∧ p front back) ↔
      p [] (first :: rest) ∨ ∃ front back, rest = front ++ back ∧ p (first :: front) back := by
  constructor
  · rintro ⟨front, back, whole, holds⟩
    rcases List.cons_eq_append_iff.1 whole with ⟨rfl, rfl⟩ | ⟨front, rfl, rfl⟩
    · exact Or.inl holds
    · exact Or.inr ⟨front, back, rfl, holds⟩
  · rintro (holds | ⟨front, back, rfl, holds⟩)
    · exact ⟨[], _, rfl, holds⟩
    · exact ⟨first :: front, back, rfl, holds⟩

/-- After an odd number of percent signs in a row the text goes on with length modifiers and then
`s` or `[`. -/
def OddRun (cs : List Char) : Prop :=
  ∃ front rest, cs = front ++ rest ∧ Odd (front.rtakeWhile (· = '%')).length ∧
    storesString rest = true

namespace FormatPosition

/-- Between two parts there is a percent sign ahead exactly where the number of percent signs in a
row is odd. -/
theorem hasUnbounded_between_iff (passed cs : List Char) :
    (between (Odd (passed.rtakeWhile (· = '%')).length)).hasUnbounded cs = true ↔
      ∃ front rest, cs = front ++ rest ∧ Odd ((passed ++ front).rtakeWhile (· = '%')).length ∧
        storesString rest = true := by
  -- The search stands where the parity of the percent signs that were just passed puts it.
  induction cs generalizing passed with
  | nil =>
    refine iff_of_false (by simp [hasUnbounded]) ?_
    rintro ⟨front, rest, nothing, -, stored⟩
    obtain ⟨-, rfl⟩ := List.append_eq_nil_iff.1 nothing.symm
    cases stored
  | cons c cs ih =>
    rw [exists_cons_eq_append, List.append_nil]
    have later := ih (passed ++ [c])
    simp only [List.append_assoc, List.singleton_append] at later
    rw [← later]
    by_cases percentSign : c = '%'
    · subst percentSign
      have run : (passed ++ ['%']).rtakeWhile (· = '%') = passed.rtakeWhile (· = '%') ++ ['%'] :=
        List.rtakeWhile_concat_pos _ _ _ (by simp)
      have stored : storesString ('%' :: cs) = false := by
        rfl
      rw [hasUnbounded_between_percent, run, List.length_append, List.length_singleton]
      simp [Nat.odd_add_one, stored, -Nat.not_odd_iff_even]
    · have run : (passed ++ [c]).rtakeWhile (· = '%') = [] :=
        List.rtakeWhile_concat_neg _ _ _ (by simpa using percentSign)
      rw [hasUnbounded_between_plain percentSign, run]
      simp [between]

theorem hasUnbounded_iff_oddRun (cs : List Char) :
    literal.hasUnbounded cs = true ↔ OddRun cs :=
  hasUnbounded_between_iff [] cs

end FormatPosition

namespace FormatItem

/-- Whether a percent sign is ahead after a part, if one was `ahead` before it: the last percent
sign of the format so far is taken for the first of a conversion. -/
def leavesAhead (ahead : Bool) : FormatItem → Bool
  | plain _ => false
  | percent => ahead
  | conversion parts => parts.letter == some '%'

/-- Some conversion stores a string and has no width. -/
def HasUnbounded (items : List FormatItem) : Prop :=
  ∃ parts, conversion parts ∈ items ∧ parts.isUnbounded = true

/-- Some unbounded conversion is found where no percent sign is ahead. -/
def Sees (ahead : Bool) (items : List FormatItem) : Prop :=
  ∃ front rest, items = front ++ rest ∧ front.foldl leavesAhead ahead = false ∧
    ∃ parts, rest.head? = some (conversion parts) ∧ parts.isUnbounded = true

/-- Somewhere the search takes members of a set for an unbounded conversion, or what follows a
percent sign that is ahead. -/
def Strays (ahead : Bool) (items : List FormatItem) : Prop :=
  ∃ front rest, items = front ++ rest ∧
    ((∃ parts, rest.head? = some (conversion parts) ∧ OddRun parts.set) ∨
      front.foldl leavesAhead ahead = true ∧ storesString (rest.flatMap chars) = true)

variable {ahead : Bool} {item : FormatItem} {items : List FormatItem}

theorem sees_nil : ¬ Sees ahead [] := by
  rintro ⟨front, rest, nothing, -, parts, first, -⟩
  obtain ⟨-, rfl⟩ := List.append_eq_nil_iff.1 nothing.symm
  cases first

theorem sees_cons : Sees ahead (item :: items) ↔
    (ahead = false ∧ ∃ parts, item = conversion parts ∧ parts.isUnbounded = true) ∨
      Sees (item.leavesAhead ahead) items := by
  rw [Sees, exists_cons_eq_append]
  simp only [List.foldl_nil, List.head?_cons, Option.some.injEq, List.foldl_cons, Sees]

theorem strays_nil : ¬ Strays ahead [] := by
  rintro ⟨front, rest, nothing, strays⟩
  obtain ⟨-, rfl⟩ := List.append_eq_nil_iff.1 nothing.symm
  rcases strays with ⟨parts, first, -⟩ | ⟨-, stored⟩
  · cases first
  · cases stored

theorem strays_cons : Strays ahead (item :: items) ↔
    ((∃ parts, item = conversion parts ∧ OddRun parts.set) ∨
      ahead = true ∧ storesString (item.chars ++ items.flatMap chars) = true) ∨
      Strays (item.leavesAhead ahead) items := by
  rw [Strays, exists_cons_eq_append]
  simp only [List.foldl_nil, List.head?_cons, Option.some.injEq, List.foldl_cons,
    List.flatMap_cons, Strays]

end FormatItem

open FormatItem FormatPosition in
/-- What the search finds in the parts of a format, with a percent sign ahead or without. -/
theorem hasUnbounded_formatItems (ahead : Bool) (cs : List Char) :
    (between ahead).hasUnbounded cs = true ↔
      Sees ahead (formatItems cs) ∨ Strays ahead (formatItems cs) := by
  fun_induction formatItems cs generalizing ahead with
  | case1 => exact iff_of_false (by simp [hasUnbounded]) (not_or.2 ⟨sees_nil, strays_nil⟩)
  | case2 rest ih =>
    have stored : storesString (percent.chars ++ (formatItems rest).flatMap chars) = false := rfl
    rw [hasUnbounded_between_percent, hasUnbounded_between_percent, Bool.not_not, ih, sees_cons,
      strays_cons, stored]
    simp [leavesAhead]
  | case3 rest single ih =>
    -- A percent sign ahead makes `%%` of this one, so that the conversion is passed as plain text.
    have stored (parts : Conversion) (more : List Char) :
        storesString ((conversion parts).chars ++ more) = false := rfl
    have alone : rest.head? ≠ some '%' := by
      intro double
      obtain ⟨rest, rfl⟩ := List.head?_eq_some_iff.1 double
      exact single rest rfl
    rw [hasUnbounded_between_conversion alone, sees_cons, strays_cons, stored, Bool.or_eq_true,
      Bool.or_eq_true, hasUnbounded_iff_oddRun, ih]
    simp only [conversion.injEq, exists_eq_left', leavesAhead, Bool.and_eq_true,
      Bool.not_eq_true', Bool.false_eq_true, and_false, or_false]
    tauto
  | case4 c rest _ other ih =>
    rw [hasUnbounded_between_plain other, sees_cons, strays_cons, Bool.or_eq_true,
      flatMap_chars_formatItems]
    have later := ih false
    rw [between, if_neg Bool.false_ne_true] at later
    rw [later, Bool.and_eq_true]
    simp only [reduceCtorEq, false_and, exists_false, and_false, false_or, leavesAhead, chars,
      List.singleton_append]
    tauto

theorem percent_mem_of_oddRun {cs : List Char} (run : OddRun cs) : '%' ∈ cs := by
  obtain ⟨front, rest, rfl, odd, -⟩ := run
  have positive : 0 < (front.rtakeWhile (· = '%')).length := Nat.pos_of_ne_zero (by
    intro zero
    simp [zero] at odd)
  obtain ⟨sign, member⟩ := List.exists_mem_of_length_pos positive
  have isSign := List.mem_rtakeWhile_imp member
  obtain rfl : sign = '%' := by simpa using isSign
  exact List.mem_append_left rest ((List.rtakeWhile_suffix _ front).subset member)

namespace FormatItem

/-- No conversion has a percent sign as its letter or in its set. -/
def Apart (items : List FormatItem) : Prop :=
  ∀ parts, conversion parts ∈ items → parts.letter ≠ some '%' ∧ '%' ∉ parts.set

variable {items : List FormatItem}

theorem Apart.foldl_leavesAhead (apart : Apart items) :
    items.foldl leavesAhead false = false := by
  induction items with
  | nil => rfl
  | cons item items ih =>
    have here : item.leavesAhead false = false := by
      cases item with
      | plain c => rfl
      | percent => rfl
      | conversion parts => simpa [leavesAhead] using (apart parts List.mem_cons_self).1
    rw [List.foldl_cons, here]
    exact ih (fun parts member => apart parts (List.mem_cons_of_mem item member))

theorem Apart.not_strays (apart : Apart items) : ¬ Strays false items := by
  rintro ⟨front, rest, rfl, ⟨parts, first, run⟩ | ⟨isAhead, -⟩⟩
  · have member := List.mem_append_right front (List.mem_of_mem_head? first)
    exact (apart parts member).2 (percent_mem_of_oddRun run)
  · have apart : Apart front := fun parts member => apart parts (List.mem_append_left rest member)
    exact Bool.false_ne_true (apart.foldl_leavesAhead.symm.trans isAhead)

theorem Apart.sees (apart : Apart items) (unbounded : HasUnbounded items) : Sees false items := by
  obtain ⟨parts, member, isUnbounded⟩ := unbounded
  obtain ⟨front, back, rfl⟩ := List.append_of_mem member
  have apart : Apart front := fun parts member =>
    apart parts (List.mem_append_left _ member)
  exact ⟨front, _, rfl, apart.foldl_leavesAhead, parts, rfl, isUnbounded⟩

theorem Sees.hasUnbounded {ahead : Bool} (sees : Sees ahead items) : HasUnbounded items := by
  obtain ⟨front, rest, rfl, -, parts, first, isUnbounded⟩ := sees
  exact ⟨parts, List.mem_append_right front (List.mem_of_mem_head? first), isUnbounded⟩

end FormatItem

open FormatItem in
/-- The parts of a format spell it.  The search is right about whether one of them is an unbounded
conversion if and only if it strays only in a format that has one, and in a format that has one
sees one or strays.  So it is right where no conversion has a percent sign as its letter or in its
set. -/
theorem hasUnboundedConversion_iff_hasUnbounded (format : String) :
    let items := formatItems format.toList
    items.flatMap FormatItem.chars = format.toList ∧
      ((hasUnboundedConversion format = true ↔ HasUnbounded items) ↔
        (Strays false items → HasUnbounded items) ∧
          (HasUnbounded items → Sees false items ∨ Strays false items)) ∧
      (Apart items → (hasUnboundedConversion format = true ↔ HasUnbounded items)) := by
  intro items
  have found : hasUnboundedConversion format = true ↔ Sees false items ∨ Strays false items :=
    hasUnbounded_formatItems false format.toList
  rw [found]
  refine ⟨flatMap_chars_formatItems format.toList, ⟨fun same => ?_, fun right => ?_⟩,
    fun apart => ?_⟩
  · exact ⟨fun strays => same.1 (Or.inr strays), same.2⟩
  · exact ⟨fun finds => finds.elim Sees.hasUnbounded right.1, right.2⟩
  · rw [or_iff_left apart.not_strays]
    exact ⟨Sees.hasUnbounded, apart.sees⟩

open FormatItem in
/-- A set with a width whose first member is a bracket, a result that is not stored, `%%`, and a
string. -/
theorem hasUnboundedConversion_iff_hasUnbounded_string :
    let items := formatItems "%5[]s]%*s%%%ls".toList
    Apart items ∧ HasUnbounded items ∧ hasUnboundedConversion "%5[]s]%*s%%%ls" = true := by
  intro items
  have parts : items = [.conversion ⟨false, ['5'], [], some '[', [']', 's', ']']⟩,
      .conversion ⟨true, [], [], some 's', []⟩, .percent,
      .conversion ⟨false, [], ['l'], some 's', []⟩] := by
    decide +kernel
  have apart : Apart items := by
    rw [parts]
    simp [Apart]
  have unbounded : HasUnbounded items := by
    rw [parts]
    simp [HasUnbounded, Conversion.isUnbounded]
  exact ⟨apart, unbounded, ((hasUnboundedConversion_iff_hasUnbounded _).2.2 apart).2 unbounded⟩

open FormatItem in
/-- The members of a set with a width are taken for a conversion, although the set is the only
conversion. -/
theorem hasUnboundedConversion_reads_set :
    hasUnboundedConversion "%5[%s]" = true ∧
      ¬ HasUnbounded (formatItems "%5[%s]".toList) := by
  have parts : formatItems "%5[%s]".toList =
      [.conversion ⟨false, ['5'], [], some '[', ['%', 's', ']']⟩] := by
    decide +kernel
  refine ⟨by decide +kernel, ?_⟩
  rw [parts]
  simp [HasUnbounded, Conversion.isUnbounded]

end CSurvey
