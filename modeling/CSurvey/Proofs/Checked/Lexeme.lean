import CSurvey.Proofs.Checked.Basic
import CSurvey.Proofs.Text.Cut
import CSurvey.Proofs.Token.Run

/-!
# Lexemes byte by byte

The bytes of a text are read from where a token begins to where it ends.  Only a
word or the inside of a comment or literal can hold bytes beyond ASCII, and each
of them is passed over as a whole, even where a backslash skips the first of its
bytes only.
-/

namespace CSurvey

namespace Text

/-- The number of bytes before the first place where `part` occurs. -/
def find? (part : List Char) : List Char → Option Nat
  | [] => if part.isEmpty then some 0 else none
  | c :: rest =>
    if part.isPrefixOf (c :: rest) then some 0 else (c.utf8Size + ·) <$> find? part rest

theorem byteLength_takeWhile_newline (cs : List Char) :
    byteLength (cs.takeWhile (· ≠ '\n')) = (find? ['\n'] cs).getD (byteLength cs) := by
  induction cs with
  | nil => rfl
  | cons c rest ih =>
    by_cases newline : c = '\n'
    · subst newline
      rfl
    · have other : ¬ ['\n'].isPrefixOf (c :: rest) = true := by
        simp [List.isPrefixOf, Ne.symm newline]
      have kept : decide (c ≠ '\n') = true := decide_eq_true newline
      rw [List.takeWhile_cons, if_pos kept, byteLength_cons, ih, find?, if_neg other]
      cases find? ['\n'] rest <;> rfl

end Text

namespace Lexeme

open Text (byteLength)

theorem blockRest_eq (cs : List Char) :
    byteLength (blockRest cs).1 = ((Text.find? ['*', '/'] cs).map (· + 2)).getD (byteLength cs) ∧
      (blockRest cs).2 = (Text.find? ['*', '/'] cs).isSome := by
  fun_induction blockRest cs with
  | case1 => exact ⟨rfl, rfl⟩
  | case2 rest => exact ⟨rfl, rfl⟩
  | case3 c rest other more closed read ih =>
    have notMark : ¬ ['*', '/'].isPrefixOf (c :: rest) = true := by
      intro mark
      obtain ⟨left, eq⟩ := List.isPrefixOf_iff_prefix.1 mark
      obtain ⟨rfl, rfl⟩ := List.cons.inj eq
      exact other left rfl rfl
    rw [read] at ih
    obtain ⟨length, closes⟩ := ih
    rw [Text.find?, if_neg notMark]
    dsimp only at length closes ⊢
    rw [Text.byteLength_cons, length, closes]
    cases Text.find? ['*', '/'] rest <;> simp [Nat.add_assoc]

end Lexeme

namespace Checked

open Lexeme (isWordChar)
open Text (isWide bytes byteLength)

/-- Where a literal ends, and whether it is closed.  A backslash at the end of the text reaches
past it. -/
def literalEnd (bytes : List Char) (quote : Char) : (steps position : Nat) → Checked (Nat × Bool)
  | 0, position => if position < bytes.length then .error .steps else .ok (position, false)
  | steps + 1, position =>
    if position < bytes.length then do
      let byte ← item bytes position
      if byte = '\\' then literalEnd bytes quote steps (position + 2)
      else if byte = quote then return (position + 1, true)
      else if byte = '\n' then return (position, false)
      else literalEnd bytes quote steps (position + 1)
    else .ok (position, false)

/-- The literal that begins at a position. -/
def literal (bytes : List Char) (kind : TokenKind) (quote : Char) (position : Nat) :
    Checked (TokenKind × Nat × Bool) := do
  let (stop, closed) ← literalEnd bytes quote bytes.length (position + 1)
  return (kind, min stop bytes.length, closed)

/-- The number of bytes of the mark that a text begins with. -/
def markWidth (rest : List Char) : Nat :=
  if ['.', '.', '.'].isPrefixOf rest then 3
  else if Lexeme.pairs.any (fun pair => [pair.1, pair.2].isPrefixOf rest) then 2
  else 1

/-- The kind of the token that begins with a byte at a position, where it ends, and whether it is
closed.  A `#` counts as any other mark here. -/
def lexeme (cs bytes : List Char) (byte : Char) (position : Nat) :
    Checked (TokenKind × Nat × Bool) := do
  let next := bytes[position + 1]?
  if byte = '/' && next == some '/' then
    let rest ← cut cs position bytes.length
    let stop := ((Text.find? ['\n'] rest).map (position + ·)).getD bytes.length
    return (.lineComment, stop, true)
  else if byte = '/' && next == some '*' then
    let rest ← cut cs (position + 2) bytes.length
    match Text.find? ['*', '/'] rest with
    | some inside => return (.blockComment, position + 2 + inside + 2, true)
    | none => return (.blockComment, bytes.length, false)
  else if byte = '"' then literal bytes .string '"' position
  else if byte = '\'' then literal bytes .char '\'' position
  else if isWordChar byte then
    let numeric := byte.isDigit
    let stop ← pass bytes (fun other => isWordChar other || (numeric && other == '.')) bytes.length
      (position + 1)
    return (.code, stop, true)
  else
    let rest ← cut cs position bytes.length
    return (.code, position + markWidth rest, true)

section Literal

variable {whole front more rest : List Char} {quote : Char} {steps : Nat}

theorem literalEnd_of_le {position : Nat} (past : whole.length ≤ position) :
    literalEnd whole quote steps position = .ok (position, false) := by
  cases steps <;> rw [literalEnd, if_neg (by omega)]

theorem literalEnd_succ {byte : Char} (split : whole = front ++ byte :: rest) :
    literalEnd whole quote (steps + 1) front.length =
      if byte = '\\' then literalEnd whole quote steps (front.length + 2)
      else if byte = quote then .ok (front.length + 1, true)
      else if byte = '\n' then .ok (front.length, false)
      else literalEnd whole quote steps (front.length + 1) := by
  have inside : front.length < whole.length := by simp [split]
  rw [literalEnd, if_pos inside, item_split split rfl]
  rfl

/-- A byte or character that does nothing inside a literal. -/
def Plain (quote byte : Char) : Prop :=
  byte ≠ '\\' ∧ byte ≠ quote ∧ byte ≠ '\n'

theorem plain_of_isWide {byte : Char} (narrow : isWide quote = false)
    (wide : isWide byte = true) : Plain quote byte :=
  ⟨Text.ne_of_isWide wide rfl, Text.ne_of_isWide wide narrow, Text.ne_of_isWide wide rfl⟩

theorem plain_bytes {c : Char} (narrow : isWide quote = false) (plain : Plain quote c) :
    ∀ byte ∈ bytes [c], Plain quote byte := by
  obtain ⟨first, more, spelled, ⟨rfl, rfl, -⟩ | ⟨-, firstWide, moreWide⟩⟩ := Text.bytes_singleton c
  · simpa [spelled] using plain
  · rw [spelled]
    exact List.forall_mem_cons.2 ⟨plain_of_isWide narrow firstWide,
      fun byte inside => plain_of_isWide narrow (moreWide byte inside)⟩

theorem literalEnd_plain (split : whole = front ++ (more ++ rest))
    (plain : ∀ byte ∈ more, Plain quote byte) :
    literalEnd whole quote (more.length + steps) front.length =
      literalEnd whole quote steps (front ++ more).length := by
  induction more generalizing front with
  | nil => simp
  | cons byte more ih =>
    obtain ⟨⟨notSlash, notQuote, notNewline⟩, later⟩ := List.forall_mem_cons.1 plain
    have next : whole = (front ++ [byte]) ++ (more ++ rest) := by simp [split]
    have past := ih next later
    rw [List.append_assoc, List.singleton_append, List.length_append, List.length_singleton] at past
    rw [List.length_cons, Nat.add_right_comm, literalEnd_succ split, if_neg notSlash,
      if_neg notQuote, if_neg notNewline, past]

theorem exists_step {c : Char} {cs : List Char} (enough : byteLength (c :: cs) ≤ steps) :
    ∃ fewer, steps = fewer + 1 ∧ byteLength cs ≤ fewer := by
  have positive := c.utf8Size_pos
  rw [Text.byteLength_cons] at enough
  exact ⟨steps - 1, by omega, by omega⟩

/-- A backslash skips the first byte of the character after it, and the others do nothing. -/
theorem literalEnd_escape {c : Char} {cs : List Char}
    (split : whole = front ++ bytes ('\\' :: c :: cs)) (narrow : isWide quote = false)
    (enough : byteLength ('\\' :: c :: cs) ≤ steps) :
    ∃ fewer, byteLength cs ≤ fewer ∧ literalEnd whole quote steps front.length =
      literalEnd whole quote fewer (front ++ bytes ['\\', c]).length := by
  obtain ⟨first, more, spelled, kept⟩ := Text.bytes_singleton c
  have plain : ∀ byte ∈ more, Plain quote byte := by
    rcases kept with ⟨-, rfl, -⟩ | ⟨-, -, wide⟩
    · simp
    · exact fun byte inside => plain_of_isWide narrow (wide byte inside)
  obtain ⟨steps, rfl, left⟩ := exists_step enough
  have size := Text.length_bytes [c]
  rw [spelled, List.length_cons, Text.byteLength_cons, Text.byteLength_nil] at size
  rw [Text.byteLength_cons] at left
  obtain ⟨fewer, rfl⟩ : ∃ fewer, steps = more.length + fewer :=
    ⟨steps - more.length, by omega⟩
  rw [Text.bytes_cons rfl, Text.bytes_cons_eq c, spelled] at split
  have past : whole = (front ++ ['\\', first]) ++ (more ++ bytes cs) := by simp [split]
  have start : (front ++ ['\\', first]).length = front.length + 2 := by simp
  have skip := @literalEnd_plain _ _ _ _ quote fewer past plain
  rw [start] at skip
  refine ⟨fewer, by omega, ?_⟩
  rw [literalEnd_succ split, if_pos rfl, skip, Text.bytes_cons rfl, spelled, List.append_assoc]
  rfl

theorem literalEnd_pass {c : Char} {cs : List Char} (split : whole = front ++ bytes (c :: cs))
    (narrow : isWide quote = false) (plain : Plain quote c)
    (enough : byteLength (c :: cs) ≤ steps) :
    ∃ fewer, byteLength cs ≤ fewer ∧ literalEnd whole quote steps front.length =
      literalEnd whole quote fewer (front ++ bytes [c]).length := by
  rw [← List.singleton_append, Text.byteLength_append, ← Text.length_bytes] at enough
  rw [Text.bytes_cons_eq] at split
  refine ⟨steps - (bytes [c]).length, by omega, ?_⟩
  rw [← literalEnd_plain split (plain_bytes narrow plain), Nat.add_sub_cancel' (by omega)]

theorem ne_backslash {c : Char} {cs : List Char} (noEnd : c = '\\' → cs = [] → False)
    (noEscape : ∀ d more, c = '\\' → cs = d :: more → False) : c ≠ '\\' := by
  rintro rfl
  cases cs with
  | nil => exact noEnd rfl rfl
  | cons d more => exact noEscape d more rfl rfl

/-- The byte reader ends where the characters `inside` end and agrees on whether the literal is
closed.  It may stand past the end of the text then. -/
def EndsAfter (whole : List Char) (quote : Char) (steps position : Nat) (inside : List Char)
    (closed : Bool) : Prop :=
  ∃ stop, literalEnd whole quote steps position = .ok (stop, closed) ∧
    min stop whole.length = position + byteLength inside

theorem EndsAfter.append {passed inside : List Char} {fewer : Nat} {closed : Bool}
    (later : EndsAfter whole quote fewer (front ++ bytes passed).length inside closed)
    (skip : literalEnd whole quote steps front.length =
      literalEnd whole quote fewer (front ++ bytes passed).length) :
    EndsAfter whole quote steps front.length (passed ++ inside) closed := by
  obtain ⟨stop, found, bound⟩ := later
  refine ⟨stop, skip.trans found, ?_⟩
  rw [bound, List.length_append, Text.length_bytes, Text.byteLength_append, Nat.add_assoc]

theorem endsAfter_literalRest {cs : List Char} (split : whole = front ++ bytes cs)
    (narrow : isWide quote = false) (enough : byteLength cs ≤ steps) :
    EndsAfter whole quote steps front.length (Lexeme.literalRest quote cs).1
      (Lexeme.literalRest quote cs).2 := by
  fun_induction Lexeme.literalRest quote cs generalizing front steps with
  | case1 =>
    refine ⟨front.length, literalEnd_of_le (by simp [split]), ?_⟩
    simp [split]
  | case2 =>
    obtain ⟨steps, rfl, -⟩ := exists_step enough
    have split : whole = front ++ ['\\'] := split
    refine ⟨front.length + 2, ?_, ?_⟩
    · rw [literalEnd_succ split, if_pos rfl, literalEnd_of_le (by simp [split])]
    · rw [split, List.length_append, Nat.min_eq_right (Nat.add_le_add_left (by decide) _)]
      rfl
  | case3 c rest inside closed read ih =>
    obtain ⟨fewer, left, skip⟩ := literalEnd_escape split narrow enough
    have next : whole = (front ++ bytes ['\\', c]) ++ bytes rest := by
      rw [split, List.append_assoc, ← Text.bytes_append]
      rfl
    have later := ih next left
    rw [read] at later
    exact later.append skip
  | case4 rest noEnd noEscape =>
    obtain ⟨steps, rfl, -⟩ := exists_step enough
    rw [Text.bytes_cons narrow] at split
    refine ⟨front.length + 1, ?_, ?_⟩
    · rw [literalEnd_succ split, if_neg (ne_backslash noEnd noEscape), if_pos rfl]
    · rw [Nat.min_eq_left (by simp [split])]
      simp [Text.utf8Size_of_not_isWide narrow]
  | case5 rest _ _ notQuote =>
    obtain ⟨steps, rfl, -⟩ := exists_step enough
    rw [Text.bytes_cons rfl] at split
    refine ⟨front.length, ?_, ?_⟩
    · rw [literalEnd_succ split, if_neg (by decide), if_neg notQuote, if_pos rfl]
    · simp [split]
  | case6 c rest noEnd noEscape notQuote notNewline inside closed read ih =>
    have plain : Plain quote c := ⟨ne_backslash noEnd noEscape, notQuote, notNewline⟩
    obtain ⟨fewer, left, skip⟩ := literalEnd_pass split narrow plain enough
    have next : whole = (front ++ bytes [c]) ++ bytes rest := by
      rw [split, Text.bytes_cons_eq, List.append_assoc]
    have later := ih next left
    rw [read] at later
    exact later.append skip

end Literal

section Lexeme

variable {cs front rest : List Char}

theorem literal_eq {quote : Char} (whole : cs = front ++ quote :: rest)
    (narrow : isWide quote = false) (kind : TokenKind) :
    literal (bytes cs) kind quote (byteLength front) =
      .ok (kind, byteLength front + byteLength (quote :: (Lexeme.literalRest quote rest).1),
        (Lexeme.literalRest quote rest).2) := by
  have split : bytes cs = (bytes front ++ [quote]) ++ bytes rest := by
    rw [whole, Text.bytes_append, Text.bytes_cons narrow, List.append_assoc, List.singleton_append]
  have enough : byteLength rest ≤ (bytes cs).length := by
    rw [Text.length_bytes, whole, Text.byteLength_append, Text.byteLength_cons]
    omega
  have start : (bytes front ++ [quote]).length = byteLength front + 1 := by simp
  obtain ⟨stop, found, bound⟩ := endsAfter_literalRest split narrow enough
  rw [start] at found bound
  rw [literal, found, ok_bind, Text.byteLength_cons, Text.utf8Size_of_not_isWide narrow,
    ← Nat.add_assoc, ← bound]
  rfl

theorem pass_word {c first : Char} {more : List Char} {test : Char → Bool}
    (whole : cs = front ++ c :: rest) (spelled : bytes [c] = first :: more)
    (passed : ∀ byte ∈ more, test byte = true) (wide : ∀ c, isWide c = true → test c = true) :
    pass (bytes cs) test (bytes cs).length (byteLength front + 1) =
      .ok (byteLength front + byteLength (c :: rest.takeWhile test)) := by
  have split : bytes cs = (bytes front ++ [first]) ++ (more ++ bytes rest) := by
    rw [whole, Text.bytes_append, Text.bytes_cons_eq, spelled]
    simp
  have start : (bytes front ++ [first]).length = byteLength front + 1 := by simp
  have enough : (more ++ bytes rest).length ≤ (bytes cs).length := by
    rw [split]
    exact (List.suffix_append ..).length_le
  have size := Text.length_bytes [c]
  rw [spelled, List.length_cons, Text.byteLength_cons, Text.byteLength_nil] at size
  rw [← start, pass_eq_ok test split enough, start, List.takeWhile_append_of_pos passed,
    List.length_append, Text.takeWhile_bytes wide, Text.length_bytes, Text.byteLength_cons]
  refine congrArg _ ?_
  omega

/-- What a mark adds to its first character. -/
def markRest (c : Char) (rest : List Char) : List Char :=
  if c = '.' && rest.take 2 == ['.', '.'] then ['.', '.']
  else if rest.head?.any (fun d => Lexeme.pairs.contains (c, d)) then rest.take 1
  else []

theorem after_mark (c : Char) (rest : List Char) :
    (if c = '.' && rest.take 2 == ['.', '.'] then (TokenKind.code, ['.', '.'], true)
    else if rest.head?.any (fun d => Lexeme.pairs.contains (c, d)) then (.code, rest.take 1, true)
    else (.code, [], true)) = (.code, markRest c rest, true) := by
  rw [markRest]
  split
  · rfl
  · split <;> rfl

theorem narrow_of_mem_pairs : ∀ pair ∈ Lexeme.pairs, isWide pair.2 = false := by
  decide

theorem any_isPrefixOf_pairs (c : Char) (rest : List Char) :
    Lexeme.pairs.any (fun pair => [pair.1, pair.2].isPrefixOf (c :: rest)) =
      rest.head?.any (fun d => Lexeme.pairs.contains (c, d)) := by
  cases rest with
  | nil => simp [List.isPrefixOf]
  | cons d rest =>
    simp only [List.isPrefixOf, Bool.and_true, List.head?_cons, Option.any_some,
      List.contains_eq_any_beq]
    refine congrArg _ (funext fun pair => ?_)
    rw [Bool.eq_iff_iff]
    simp only [Bool.and_eq_true, beq_iff_eq, Prod.ext_iff]
    exact and_congr eq_comm eq_comm

theorem isPrefixOf_dots (c : Char) (rest : List Char) :
    ['.', '.', '.'].isPrefixOf (c :: rest) = (c = '.' && rest.take 2 == ['.', '.']) := by
  rw [Bool.eq_iff_iff, List.isPrefixOf_iff_prefix, List.cons_prefix_cons,
    List.prefix_iff_eq_take, Bool.and_eq_true, decide_eq_true_eq, beq_iff_eq]
  exact and_congr eq_comm eq_comm

theorem markWidth_eq {c : Char} (narrow : isWide c = false) :
    markWidth (c :: rest) = byteLength (c :: markRest c rest) := by
  have one := Text.utf8Size_of_not_isWide narrow
  rw [markWidth, markRest, isPrefixOf_dots, any_isPrefixOf_pairs]
  split
  · rw [Text.byteLength_cons, one]
    rfl
  split
  · rename_i operator
    cases rest with
    | nil => cases operator
    | cons d rest =>
      have member := List.contains_iff_mem.1 operator
      have second : d.utf8Size = 1 := Text.utf8Size_of_not_isWide (narrow_of_mem_pairs _ member)
      simp [one, second]
  · simp [one]

theorem getElem?_bytes_after {c d : Char} (whole : cs = front ++ c :: rest)
    (narrow : isWide c = false) (other : isWide d = false) :
    ((bytes cs)[byteLength front + 1]? == some d) = (rest.head? == some d) := by
  have split : bytes cs = bytes front ++ c :: bytes rest := by
    rw [whole, Text.bytes_append, Text.bytes_cons narrow]
  rw [getElem?_after_split split (Text.length_bytes front), Text.head?_bytes other]

theorem cut_rest (whole : cs = front ++ rest) :
    cut cs (byteLength front) (bytes cs).length = .ok rest := by
  have middle := cut_middle front rest []
  rw [List.append_nil, ← whole, ← Text.byteLength_append, ← whole] at middle
  rwa [Text.length_bytes]

theorem lineComment_end (whole : cs = front ++ '/' :: rest) :
    ((Text.find? ['\n'] ('/' :: rest)).map (byteLength front + ·)).getD (bytes cs).length =
      byteLength front + byteLength ('/' :: rest.takeWhile (· ≠ '\n')) := by
  have run : '/' :: rest.takeWhile (· ≠ '\n') = ('/' :: rest).takeWhile (· ≠ '\n') := rfl
  rw [run, Text.byteLength_takeWhile_newline, Text.length_bytes, whole, Text.byteLength_append]
  cases Text.find? ['\n'] ('/' :: rest) <;> rfl

theorem blockComment_end (whole : cs = front ++ '/' :: '*' :: rest) :
    (do
      let found ← cut cs (byteLength front + 2) (bytes cs).length
      match Text.find? ['*', '/'] found with
      | some inside => return (TokenKind.blockComment, byteLength front + 2 + inside + 2, true)
      | none => return (TokenKind.blockComment, (bytes cs).length, false)) =
      (.ok (.blockComment,
        byteLength front + byteLength ('/' :: '*' :: (Lexeme.blockRest rest).1),
        (Lexeme.blockRest rest).2) : Checked (TokenKind × Nat × Bool)) := by
  have split : cs = (front ++ ['/', '*']) ++ rest := by simp [whole]
  have start : byteLength (front ++ ['/', '*']) = byteLength front + 2 := by
    rw [Text.byteLength_append]
    rfl
  have length : (bytes cs).length = byteLength front + 2 + byteLength rest := by
    rw [Text.length_bytes, split, Text.byteLength_append, start]
  have marks : byteLength ('/' :: '*' :: (Lexeme.blockRest rest).1) =
      2 + byteLength (Lexeme.blockRest rest).1 := by
    rw [Text.byteLength_cons, Text.byteLength_cons, ← Nat.add_assoc]
    rfl
  have remaining := cut_rest split
  rw [start] at remaining
  obtain ⟨inside, closes⟩ := Lexeme.blockRest_eq rest
  rw [remaining, ok_bind, marks, inside, closes, length]
  cases Text.find? ['*', '/'] rest with
  | none => simp [Nat.add_assoc]
  | some offset => simp [Nat.add_assoc]

variable {c first : Char} {more inside : List Char} {kind : TokenKind} {closed : Bool}

theorem isWordChar_of_isWide {c : Char} (wide : isWide c = true) : isWordChar c = true := by
  rw [isWide] at wide
  rw [isWordChar, wide, Bool.or_true]

/-- A character beyond ASCII begins a word. -/
theorem lexeme_wide (whole : cs = front ++ c :: rest) (spelled : bytes [c] = first :: more)
    (wide : isWide c = true) (firstWide : isWide first = true)
    (moreWide : ∀ byte ∈ more, isWide byte = true)
    (read : Lexeme.after c rest = (kind, inside, closed)) :
    lexeme cs (bytes cs) first (byteLength front) =
      .ok (kind, byteLength front + byteLength (c :: inside), closed) := by
  have apart {d : Char} (narrow : isWide d = false) : first ≠ d ∧ c ≠ d :=
    ⟨Text.ne_of_isWide firstWide narrow, Text.ne_of_isWide wide narrow⟩
  obtain ⟨firstSlash, slash⟩ := apart (d := '/') rfl
  obtain ⟨firstString, string⟩ := apart (d := '"') rfl
  obtain ⟨firstChar, char⟩ := apart (d := '\'') rfl
  have test {c : Char} (wide : isWide c = true) : (isWordChar c || false) = true := by
    rw [isWordChar_of_isWide wide, Bool.true_or]
  have stop := pass_word whole spelled (fun byte inside => test (moreWide byte inside))
    (fun _ => test)
  simp only [Lexeme.after, slash, string, char, isWordChar_of_isWide wide,
    Text.isDigit_of_isWide wide, decide_false, Bool.false_and, Bool.false_eq_true, if_false,
    if_true] at read
  cases read
  simp only [lexeme, firstSlash, firstString, firstChar, isWordChar_of_isWide firstWide,
    Text.isDigit_of_isWide firstWide, decide_false, Bool.false_and, Bool.false_eq_true, if_false,
    if_true, stop, ok_bind]
  rfl

/-- The cases follow those of the characters: what decides between them is one byte, or two. -/
theorem lexeme_narrow (whole : cs = front ++ c :: rest) (narrow : isWide c = false)
    (read : Lexeme.after c rest = (kind, inside, closed)) :
    lexeme cs (bytes cs) c (byteLength front) =
      .ok (kind, byteLength front + byteLength (c :: inside), closed) := by
  have next {d : Char} (other : isWide d = false) :
      ((bytes cs)[byteLength front + 1]? == some d) = (rest.head? == some d) :=
    getElem?_bytes_after whole narrow other
  rw [lexeme, next rfl, next rfl]
  rw [Lexeme.after] at read
  by_cases line : (c = '/' && rest.head? == some '/') = true
  · rw [if_pos line] at read
    cases read
    obtain rfl : c = '/' := of_decide_eq_true (Bool.and_eq_true_iff.1 line).1
    rw [if_pos line, cut_rest whole, ok_bind, lineComment_end whole]
    rfl
  rw [if_neg line] at read ⊢
  by_cases block : (c = '/' && rest.head? == some '*') = true
  · rw [if_pos block] at read ⊢
    obtain ⟨slash, star⟩ := Bool.and_eq_true_iff.1 block
    obtain rfl : c = '/' := of_decide_eq_true slash
    obtain ⟨rest, rfl⟩ := List.head?_eq_some_iff.1 (eq_of_beq star)
    cases read
    exact blockComment_end whole
  rw [if_neg block] at read ⊢
  by_cases string : c = '"'
  · rw [if_pos string] at read ⊢
    subst string
    cases read
    exact literal_eq whole rfl _
  rw [if_neg string] at read ⊢
  by_cases char : c = '\''
  · rw [if_pos char] at read ⊢
    subst char
    cases read
    exact literal_eq whole rfl _
  rw [if_neg char] at read ⊢
  by_cases word : isWordChar c = true
  · rw [if_pos word] at read ⊢
    cases read
    have wide (other : Char) (wide : isWide other = true) :
        (isWordChar other || (c.isDigit && other == '.')) = true := by
      rw [isWordChar_of_isWide wide, Bool.true_or]
    simp only [pass_word whole (Text.bytes_cons narrow []) (by simp) wide, ok_bind]
    rfl
  · rw [if_neg word] at read ⊢
    rw [after_mark] at read
    cases read
    rw [cut_rest whole, ok_bind, markWidth_eq narrow]
    rfl

theorem lexeme_eq (whole : cs = front ++ c :: rest) (spelled : bytes [c] = first :: more)
    (read : Lexeme.after c rest = (kind, inside, closed)) :
    lexeme cs (bytes cs) first (byteLength front) =
      .ok (kind, byteLength front + byteLength (c :: inside), closed) := by
  obtain ⟨byte, tail, spelledSame, kept⟩ := Text.bytes_singleton c
  obtain ⟨rfl, rfl⟩ := List.cons.inj (spelled.symm.trans spelledSame)
  rcases kept with ⟨rfl, -, narrow⟩ | ⟨wide, firstWide, moreWide⟩
  · exact lexeme_narrow whole narrow read
  · exact lexeme_wide whole spelled wide firstWide moreWide read

end Lexeme

end Checked

end CSurvey
