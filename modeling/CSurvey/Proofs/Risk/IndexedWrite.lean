import CSurvey.Proofs.Risk.Extent
import CSurvey.Proofs.Token.Lines
import CSurvey.Proofs.Token.Nesting
import Mathlib.Data.List.Pairwise

/-!
# Writes through an index

C reads the longest punctuator that a text spells, after it has joined lines that end in a
backslash.  The scanner has no operators of three characters and joins no lines.  So a
write through an index is missed where the operator is `<<=` or `>>=`, and where a line is
joined in front of or inside an operator; and the first half of an `==` on two joined lines
is taken for an assignment.
-/

namespace CSurvey

namespace Bracketed

variable {opening closing : String}

/-- When `outer` marks are open, the tokens close them all, and just them. -/
structure Closes (opening closing : String) (outer : Nat) (tokens : List Token) : Prop where
  front : ∀ front, front <+: tokens →
    front.countP (·.isPunct closing) ≤ outer + front.countP (·.isPunct opening)
  whole : tokens.countP (·.isPunct closing) = outer + tokens.countP (·.isPunct opening)

theorem closes_nil {outer : Nat} : Closes opening closing outer [] ↔ outer = 0 := by
  constructor
  · intro closes
    simpa using closes.whole.symm
  · rintro rfl
    refine ⟨fun front begins => ?_, rfl⟩
    obtain rfl := List.prefix_nil.1 begins
    exact Nat.le_refl 0

theorem closes_cons {outer : Nat} {tok : Token} {rest : List Token} :
    Closes opening closing outer (tok :: rest) ↔
      ∃ left, left + [tok].countP (·.isPunct closing) =
          outer + [tok].countP (·.isPunct opening) ∧
        Closes opening closing left rest := by
  have split (p : Token → Bool) (tokens : List Token) :
      (tok :: tokens).countP p = [tok].countP p + tokens.countP p := by
    rw [← List.singleton_append, List.countP_append]
  constructor
  · intro closes
    have first := closes.front [tok] (List.prefix_append [tok] rest)
    refine ⟨outer + [tok].countP (·.isPunct opening) - [tok].countP (·.isPunct closing),
      Nat.sub_add_cancel first, fun front begins => ?_, ?_⟩
    · have longer := closes.front (tok :: front) ((List.prefix_cons_inj tok).2 begins)
      rw [split, split _ front] at longer
      omega
    · have whole := closes.whole
      rw [split, split _ rest] at whole
      omega
  · rintro ⟨left, here, closes⟩
    refine ⟨fun front begins => ?_, ?_⟩
    · rcases List.prefix_cons_iff.1 begins with rfl | ⟨front, rfl, inside⟩
      · exact Nat.zero_le _
      · have shorter := closes.front front inside
        rw [split, split _ front]
        omega
    · have whole := closes.whole
      rw [split, split _ rest]
      omega

/-- What is found is the first closing mark with all marks that are open at it closed before. -/
theorem findClose_eq_some_iff (apart : opening ≠ closing) {outer : Nat}
    {passed tokens : List Token} {group : Bracketed} :
    findClose opening closing (outer + 1) passed tokens = some group ↔
      ∃ inner, group.inner = passed.reverse ++ inner ∧
        tokens = inner ++ group.close :: group.rest ∧ group.close.isPunct closing = true ∧
        Closes opening closing outer inner := by
  induction tokens generalizing outer passed with
  | nil => simp [findClose]
  | cons tok rest ih =>
    -- The closing mark is the first token, or it comes after it.
    have step : (∃ inner, group.inner = passed.reverse ++ inner ∧
          tok :: rest = inner ++ group.close :: group.rest ∧ group.close.isPunct closing = true ∧
          Closes opening closing outer inner) ↔
        (⟨passed.reverse, tok, rest⟩ = group ∧ tok.isPunct closing = true ∧ outer = 0) ∨
          ∃ inner, group.inner = (tok :: passed).reverse ++ inner ∧
            rest = inner ++ group.close :: group.rest ∧ group.close.isPunct closing = true ∧
            Closes opening closing outer (tok :: inner) := by
      constructor
      · rintro ⟨inner, inside, whole, closes, balanced⟩
        rcases List.cons_eq_append_iff.1 whole with ⟨rfl, same⟩ | ⟨inner, rfl, rfl⟩
        · obtain ⟨rfl, rfl⟩ := List.cons.inj same
          rw [List.append_nil] at inside
          exact Or.inl ⟨by rw [← inside], closes, closes_nil.1 balanced⟩
        · exact Or.inr ⟨inner, by simpa using inside, rfl, closes, balanced⟩
      · rintro (⟨rfl, closes, rfl⟩ | ⟨inner, inside, rfl, closes, balanced⟩)
        · exact ⟨[], (List.append_nil _).symm, rfl, closes, closes_nil.2 rfl⟩
        · exact ⟨tok :: inner, by simpa using inside, rfl, closes, balanced⟩
    rw [step, findClose]
    cases opens : tok.isPunct opening with
    | true =>
      have notClosing := Token.not_isPunct_of_isPunct opens apart
      simp [ih, closes_cons, opens, notClosing]
    | false =>
      cases closes : tok.isPunct closing with
      | true =>
        cases outer with
        | zero => simp [closes_cons, opens, closes]
        | succ outer => simp [ih, closes_cons, opens, closes]
      | false => simp [ih, closes_cons, opens, closes]

theorem ofTokens?_cons_eq_some_iff (apart : opening ≠ closing) {first : Token}
    {rest : List Token} {group : Bracketed} :
    ofTokens? opening closing (first :: rest) = some group ↔
      first.isPunct opening = true ∧ rest = group.inner ++ group.close :: group.rest ∧
        group.close.isPunct closing = true ∧ Closes opening closing 0 group.inner := by
  rw [ofTokens?]
  split
  · rename_i opens
    rw [findClose_eq_some_iff apart, and_iff_right opens]
    simp
  · rename_i other
    simp [other]

end Bracketed

namespace Place

/-- The place opens an index: it follows an identifier or a closing bracket, and an identifier
stands between its bracket and the one that matches it. -/
structure OpensIndex (place : Place) (previous : Token) (index : Bracketed) : Prop where
  behind : place.previous = some previous
  follows : previous.isIdent = true ∨ previous.isPunct "]" = true ∨ previous.isPunct ")" = true
  opens : place.here.isPunct "[" = true
  whole : place.after = index.inner ++ index.close :: index.rest
  closes : index.close.isPunct "]" = true
  matched : Bracketed.Closes "[" "]" 0 index.inner
  named : ∃ tok ∈ index.inner, tok.isIdent = true

theorem opensIndex_iff {place : Place} {previous : Token} {index : Bracketed} :
    place.OpensIndex previous index ↔ place.previous = some previous ∧
      (previous.isIdent || previous.isPunct "]" || previous.isPunct ")") = true ∧
      Bracketed.ofTokens? "[" "]" (place.here :: place.after) = some index ∧
      index.inner.any Token.isIdent = true := by
  rw [Bracketed.ofTokens?_cons_eq_some_iff (by decide), List.any_eq_true, Bool.or_eq_true,
    Bool.or_eq_true, or_assoc]
  constructor
  · rintro ⟨behind, follows, opens, whole, closes, matched, named⟩
    exact ⟨behind, follows, ⟨opens, whole, closes, matched⟩, named⟩
  · rintro ⟨behind, follows, ⟨opens, whole, closes, matched⟩, named⟩
    exact ⟨behind, follows, opens, whole, closes, matched, named⟩

instance (place : Place) (previous : Token) (index : Bracketed) :
    Decidable (place.OpensIndex previous index) :=
  decidable_of_iff' _ opensIndex_iff

end Place

/-- Whether a token is an operator that assigns. -/
def Token.isAssignment (tok : Token) : Bool :=
  tok.isCode && RiskMatch.assignments.contains tok.text

namespace RiskMatch

theorem indexedWrite?_eq_some_iff {place : Place} {span : Span} :
    indexedWrite? place = some span ↔ ∃ previous index, place.OpensIndex previous index ∧
      span = previous.span.join index.close.span ∧
      index.rest.head?.any Token.isAssignment = true := by
  constructor
  · intro found
    rw [indexedWrite?] at found
    split at found
    · cases found
    rename_i previous before behind
    split at found
    · rename_i follows
      split at found
      · cases found
      rename_i index isIndex
      split at found
      · rename_i written
        obtain ⟨named, assigned⟩ := Bool.and_eq_true_iff.1 written
        have isPrevious : place.previous = some previous := by
          rw [Place.previous, behind, List.head?_cons]
        exact ⟨previous, index, Place.opensIndex_iff.2 ⟨isPrevious, follows, isIndex, named⟩,
          (Option.some.inj found).symm, assigned⟩
      · cases found
    · cases found
  · rintro ⟨previous, index, opens, rfl, assigned⟩
    obtain ⟨isPrevious, follows, isIndex, named⟩ := Place.opensIndex_iff.1 opens
    obtain ⟨before, behind⟩ := List.head?_eq_some_iff.1 isPrevious
    rw [indexedWrite?, behind]
    simp only [follows, if_true, isIndex, named, Bool.true_and]
    exact if_pos assigned

end RiskMatch

namespace ScanState

theorem Run.exists_lexeme {first last : ScanState} {cs passed : List Char} {tokens : List Token}
    (run : Run first cs tokens last []) (here : At passed first) {tok : Token}
    (member : tok ∈ tokens) :
    ∃ front c left, passed ++ cs = front ++ c :: left ∧
      tok.span.start = Text.byteLength front ∧ tok.kind = (Lexeme.after c left).1 ∧
      tok.text = String.ofList (c :: (Lexeme.after c left).2.1) := by
  generalize nothing : ([] : List Char) = rest at run
  induction run generalizing passed with
  | done => cases member
  | @step first second third cs middle rest early late head tail ih =>
    cases head with
    | newline => simpa using ih here.newline member nothing
    | gap _ blank => simpa using ih (here.gap blank) member nothing
    | @token c kind more closed _ solid read =>
      rcases List.mem_cons.1 member with rfl | later
      · refine ⟨passed, c, more ++ middle, rfl, ?_, ?_, ?_⟩
        · rw [(here.opened c).emit_span, Span.cover]
        · rw [read]
          rfl
        · rw [read]
          rfl
      · simpa using ih ((here.opened c).emit kind (c :: more) closed) later nothing

end ScanState

/-- The text from the first of some tokens on. -/
def sourceFrom (text : String) (tokens : List Token) : List Char :=
  match tokens.head? with
  | some tok => Text.slice text.toList tok.span.start (Text.byteLength text.toList)
  | none => []

theorem sourceFrom_of_head? {text : String} {tokens : List Token} {tok : Token}
    (first : tokens.head? = some tok) (member : tok ∈ scan text) :
    ∃ c left, sourceFrom text tokens = c :: left ∧ tok.kind = (Lexeme.after c left).1 ∧
      tok.text = String.ofList (c :: (Lexeme.after c left).2.1) := by
  obtain ⟨last, run⟩ := exists_run_scan text
  obtain ⟨front, c, left, whole, start, kind, spelled⟩ := run.exists_lexeme .initial member
  rw [List.nil_append] at whole
  refine ⟨c, left, ?_, kind, spelled⟩
  have sliced := Text.slice_of_append front (c :: left) []
    (show text.toList = _ by rw [List.append_nil, whole])
  rw [← whole] at sliced
  rw [sourceFrom, first]
  simp only [start]
  exact sliced

/-- The punctuators of C, the longest first. -/
def punctuators : List String :=
  ["%:%:", "...", "<<=", ">>=", "->", "++", "--", "<<", ">>", "<=", ">=", "==", "!=", "&&", "||",
   "*=", "/=", "%=", "+=", "-=", "&=", "^=", "|=", "##", "<:", ":>", "<%", "%>", "%:", "::",
   "[", "]", "(", ")", "\x7b", "\x7d", ".", "&", "*", "+", "-", "~", "!", "/", "%", "<", ">", "^",
   "|", "?", ":", ";", "=", ",", "#"]

/-- The longest punctuator that a text begins with. -/
def punctuator? (cs : List Char) : Option String :=
  punctuators.find? (fun mark => mark.toList.isPrefixOf cs)

/-- A text without the backslashes that continue lines and the line ends after them. -/
def joined : List Char → List Char
  | [] => []
  | '\\' :: '\n' :: rest => joined rest
  | '\\' :: '\r' :: '\n' :: rest => joined rest
  | c :: rest => c :: joined rest

/-- What follows the blanks and comments that a text begins with. -/
def solid : List Char → List Char
  | [] => []
  | c :: rest =>
    if Lexeme.isSeparator c then solid rest
    else if c = '/' && rest.head? == some '/' then solid (rest.dropWhile (· ≠ '\n'))
    else if c = '/' && rest.head? == some '*' then
      solid (rest.tail.drop (Lexeme.blockRest rest.tail).1.length)
    else c :: rest
termination_by cs => cs.length
decreasing_by
  · exact Nat.lt_succ_self _
  · have shorter := (List.dropWhile_suffix (· ≠ '\n') (l := rest)).length_le
    exact Nat.lt_succ_of_le shorter
  · have dropped := List.drop_sublist (Lexeme.blockRest rest.tail).1.length rest.tail
    have shorter := (dropped.trans (List.tail_sublist rest)).length_le
    exact Nat.lt_succ_of_le shorter

def nextPunctuator? (cs : List Char) : Option String :=
  punctuator? (solid (joined cs))

theorem prefix_of_punctuator? {cs : List Char} {mark : String}
    (spelled : punctuator? cs = some mark) : mark.toList <+: cs := by
  rw [punctuator?] at spelled
  have begins := List.find?_some spelled
  exact List.isPrefixOf_iff_prefix.1 begins

/-- A character that is no blank, and what follows it if that joins no line and it opens no
comment. -/
theorem nextPunctuator?_cons {c : Char} {rest : List Char} (blank : Lexeme.isSeparator c = false)
    (other : c ≠ '\\') (opens : c = '/' → (joined rest).head? ≠ some '/' ∧
      (joined rest).head? ≠ some '*') :
    nextPunctuator? (c :: rest) = punctuator? (c :: joined rest) := by
  have whole : joined (c :: rest) = c :: joined rest := by
    cases rest <;> simp [joined, other]
  rw [nextPunctuator?, whole, solid]
  by_cases slash : c = '/'
  · subst slash
    simp [blank, opens rfl]
  · simp [blank, slash]

theorem punctuator?_equals (rest : List Char) :
    punctuator? ('=' :: rest) = if rest.head? = some '=' then some "==" else some "=" := by
  cases rest with
  | nil => rfl
  | cons d rest =>
    by_cases equals : d = '='
    · subst equals
      rfl
    · simp [punctuator?, punctuators, equals, Ne.symm equals]

/-- The characters that make an assignment with an `=` after them. -/
def compounds : List Char :=
  ['+', '-', '*', '/', '%', '&', '|', '^']

/-- The characters of which two make an assignment with an `=` after them. -/
def shifts : List Char :=
  ['<', '>']

/-- The assignments of three characters. -/
def shiftAssignments : List String :=
  ["<<=", ">>="]

theorem assignments_eq :
    RiskMatch.assignments = String.ofList ['='] ::
      (compounds.map (fun c => String.ofList [c, '=']) ++
        shifts.map (fun c => String.ofList [c, c, '='])) := by
  rfl

theorem mem_assignments {mark : String} (assigns : mark ∈ RiskMatch.assignments) :
    mark = String.ofList ['='] ∨ (∃ c ∈ compounds, mark = String.ofList [c, '=']) ∨
      ∃ c ∈ shifts, mark = String.ofList [c, c, '='] := by
  rw [assignments_eq, List.mem_cons, List.mem_append, List.mem_map, List.mem_map] at assigns
  rcases assigns with same | ⟨c, compound, same⟩ | ⟨c, shift, same⟩
  · exact Or.inl same
  · exact Or.inr (Or.inl ⟨c, compound, same.symm⟩)
  · exact Or.inr (Or.inr ⟨c, shift, same.symm⟩)

variable {c : Char} {rest : List Char}

theorem mem_compounds (compound : c ∈ compounds) :
    c = '+' ∨ c = '-' ∨ c = '*' ∨ c = '/' ∨ c = '%' ∨ c = '&' ∨ c = '|' ∨ c = '^' := by
  simpa only [compounds, List.mem_cons, List.not_mem_nil, or_false] using compound

theorem mem_shifts (shift : c ∈ shifts) : c = '<' ∨ c = '>' := by
  simpa only [shifts, List.mem_cons, List.not_mem_nil, or_false] using shift

theorem compound_not_mem_shiftAssignments (compound : c ∈ compounds) :
    String.ofList [c, '='] ∉ shiftAssignments := by
  rcases mem_compounds compound with rfl | rfl | rfl | rfl | rfl | rfl | rfl | rfl <;> decide

theorem shift_mem_shiftAssignments (shift : c ∈ shifts) :
    String.ofList [c, c, '='] ∈ shiftAssignments := by
  rcases mem_shifts shift with rfl | rfl <;> decide

theorem punctuator?_compound (compound : c ∈ compounds) :
    punctuator? (c :: '=' :: rest) = some (String.ofList [c, '=']) := by
  rcases mem_compounds compound with rfl | rfl | rfl | rfl | rfl | rfl | rfl | rfl <;> rfl

theorem punctuator?_shift (shift : c ∈ shifts) :
    punctuator? (c :: c :: '=' :: rest) = some (String.ofList [c, c, '=']) := by
  rcases mem_shifts shift with rfl | rfl <;> rfl

theorem after_equals (single : rest.head? ≠ some '=') :
    Lexeme.after '=' rest = (.code, [], true) := by
  cases rest with
  | nil => rfl
  | cons d rest =>
    have other : d ≠ '=' := by simpa using single
    simp [Lexeme.after, Lexeme.pairs, other, show Lexeme.isWordChar '=' = false by rfl]

theorem after_compound (compound : c ∈ compounds) :
    Lexeme.after c ('=' :: rest) = (.code, ['='], true) := by
  rcases mem_compounds compound with rfl | rfl | rfl | rfl | rfl | rfl | rfl | rfl <;> rfl

/-- The scanner has no operators of three characters. -/
theorem length_after_shift (shift : c ∈ shifts) : (Lexeme.after c rest).2.1.length ≤ 1 := by
  have plain : c ≠ '/' ∧ c ≠ '"' ∧ c ≠ '\'' ∧ Lexeme.isWordChar c = false ∧ c ≠ '.' := by
    rcases mem_shifts shift with rfl | rfl <;> decide
  obtain ⟨slash, string, char, word, dot⟩ := plain
  simp only [Lexeme.after, slash, string, char, word, dot, decide_false, Bool.false_and,
    Bool.false_eq_true, if_false]
  split
  · exact List.length_take_le 1 rest
  · exact Nat.zero_le 1

theorem nextPunctuator?_compound (compound : c ∈ compounds) :
    nextPunctuator? (c :: '=' :: rest) = some (String.ofList [c, '=']) := by
  have plain : Lexeme.isSeparator c = false ∧ c ≠ '\\' := by
    rcases mem_compounds compound with rfl | rfl | rfl | rfl | rfl | rfl | rfl | rfl <;> decide
  have equals : joined ('=' :: rest) = '=' :: joined rest := by
    simp [joined]
  rw [nextPunctuator?_cons plain.1 plain.2 (by simp [equals]), equals, punctuator?_compound compound]

theorem nextPunctuator?_shift (shift : c ∈ shifts) :
    nextPunctuator? (c :: c :: '=' :: rest) = some (String.ofList [c, c, '=']) := by
  have plain : Lexeme.isSeparator c = false ∧ c ≠ '\\' ∧ c ≠ '/' := by
    rcases mem_shifts shift with rfl | rfl <;> decide
  have stays : joined (c :: '=' :: rest) = c :: '=' :: joined rest := by
    simp [joined, plain]
  rw [nextPunctuator?_cons plain.1 plain.2.1 (by simp [plain]), stays, punctuator?_shift shift]

/-- The scanner reads the assignments of one and two characters that the text spells. -/
theorem after_isAssignment_iff :
    ((Lexeme.after c rest).1 = .code ∧
        String.ofList (c :: (Lexeme.after c rest).2.1) ∈ RiskMatch.assignments) ↔
      ∃ mark ∈ RiskMatch.assignments, punctuator? (c :: rest) = some mark ∧
        mark ∉ shiftAssignments := by
  constructor
  · rintro ⟨-, assigns⟩
    refine ⟨_, assigns, ?_⟩
    obtain ⟨left, whole⟩ := Lexeme.prefix_after c rest
    rcases mem_assignments assigns with same | ⟨d, compound, same⟩ | ⟨d, shift, same⟩
    · obtain ⟨rfl, nothing⟩ := List.cons.inj (String.ofList_injective same)
      have single : rest.head? ≠ some '=' := by
        intro double
        obtain ⟨rest, rfl⟩ := List.head?_eq_some_iff.1 double
        cases nothing
      rw [same, punctuator?_equals, if_neg single]
      exact ⟨rfl, by decide⟩
    · obtain ⟨rfl, equals⟩ := List.cons.inj (String.ofList_injective same)
      rw [equals] at whole
      rw [same, ← whole]
      exact ⟨punctuator?_compound compound, compound_not_mem_shiftAssignments compound⟩
    · obtain ⟨rfl, equals⟩ := List.cons.inj (String.ofList_injective same)
      have short : (Lexeme.after c rest).2.1.length ≤ 1 := length_after_shift shift
      rw [equals] at short
      exact absurd short (Nat.not_succ_le_self 1)
  · rintro ⟨mark, assigns, spelled, short⟩
    obtain ⟨left, whole⟩ := prefix_of_punctuator? spelled
    rcases mem_assignments assigns with rfl | ⟨d, compound, rfl⟩ | ⟨d, shift, rfl⟩
    · rw [String.toList_ofList] at whole
      obtain ⟨rfl, -⟩ := List.cons.inj whole
      have single : rest.head? ≠ some '=' := by
        intro double
        rw [punctuator?_equals, if_pos double] at spelled
        exact absurd (Option.some.inj spelled) (by decide)
      rw [after_equals single]
      exact ⟨rfl, assigns⟩
    · rw [String.toList_ofList] at whole
      obtain ⟨rfl, equals⟩ := List.cons.inj whole
      obtain rfl : '=' :: left = rest := equals
      rw [after_compound compound]
      exact ⟨rfl, assigns⟩
    · exact absurd (shift_mem_shiftAssignments shift) short

/-- Where an assignment is spelled without joined lines, C reads it; only an `=` can be the front
of another punctuator. -/
theorem nextPunctuator?_of_punctuator? {cs : List Char} {mark : String}
    (assigns : mark ∈ RiskMatch.assignments) (spelled : punctuator? cs = some mark) :
    nextPunctuator? cs = some mark ∨ mark = "=" ∧ nextPunctuator? cs = some "==" := by
  obtain ⟨rest, rfl⟩ := prefix_of_punctuator? spelled
  rcases mem_assignments assigns with rfl | ⟨c, compound, rfl⟩ | ⟨c, shift, rfl⟩
  · rw [String.toList_ofList, List.singleton_append,
      nextPunctuator?_cons (by decide) (by decide) (by simp), punctuator?_equals]
    split
    · exact Or.inr ⟨rfl, rfl⟩
    · exact Or.inl rfl
  · rw [String.toList_ofList]
    exact Or.inl (nextPunctuator?_compound compound)
  · rw [String.toList_ofList]
    exact Or.inl (nextPunctuator?_shift shift)

/-- An assignment is the next token exactly where one of one or two characters is spelled. -/
theorem isAssignment_iff {text : String} {tokens : List Token}
    (inText : ∀ tok ∈ tokens, tok ∈ scan text) :
    tokens.head?.any Token.isAssignment = true ↔
      ∃ mark ∈ RiskMatch.assignments, punctuator? (sourceFrom text tokens) = some mark ∧
        mark ∉ shiftAssignments := by
  cases tokens with
  | nil =>
    refine iff_of_false Bool.false_ne_true ?_
    rintro ⟨mark, -, spelled, -⟩
    cases spelled
  | cons tok rest =>
    obtain ⟨c, left, source, kind, spelled⟩ :=
      sourceFrom_of_head? (show (tok :: rest).head? = some tok from rfl)
        (inText tok List.mem_cons_self)
    rw [source, ← after_isAssignment_iff, ← kind, ← spelled]
    simp [Token.isAssignment, Token.isCode]

/-- The scanner and C agree on what assigns where joined lines do not matter to an assignment that
is no shift. -/
theorem reads_alike_iff (source : List Char) :
    ((∃ mark ∈ RiskMatch.assignments, punctuator? source = some mark ∧ mark ∉ shiftAssignments) ↔
        ∃ mark ∈ RiskMatch.assignments, nextPunctuator? source = some mark) ↔
      ∀ mark ∈ RiskMatch.assignments,
        punctuator? source = some mark ∨ nextPunctuator? source = some mark →
          punctuator? source = nextPunctuator? source ∧ mark ∉ shiftAssignments := by
  have grown : "==" ∉ RiskMatch.assignments := by decide
  constructor
  · rintro alike mark assigns (spelled | read)
    · rcases nextPunctuator?_of_punctuator? assigns spelled with read | ⟨rfl, read⟩
      · obtain ⟨other, -, otherSpelled, short⟩ := alike.2 ⟨mark, assigns, read⟩
        obtain rfl := Option.some.inj (spelled.symm.trans otherSpelled)
        exact ⟨spelled.trans read.symm, short⟩
      · obtain ⟨other, otherAssigns, otherRead⟩ := alike.1 ⟨"=", assigns, spelled, by decide⟩
        obtain rfl := Option.some.inj (read.symm.trans otherRead)
        exact absurd otherAssigns grown
    · obtain ⟨other, otherAssigns, spelled, short⟩ := alike.2 ⟨mark, assigns, read⟩
      rcases nextPunctuator?_of_punctuator? otherAssigns spelled with same | ⟨rfl, same⟩
      · obtain rfl := Option.some.inj (read.symm.trans same)
        exact ⟨spelled.trans read.symm, short⟩
      · obtain rfl := Option.some.inj (read.symm.trans same)
        exact absurd assigns grown
  · intro alike
    constructor
    · rintro ⟨mark, assigns, spelled, -⟩
      exact ⟨mark, assigns, (alike mark assigns (Or.inl spelled)).1.symm.trans spelled⟩
    · rintro ⟨mark, assigns, read⟩
      obtain ⟨same, short⟩ := alike mark assigns (Or.inr read)
      exact ⟨mark, assigns, same.trans read, short⟩

namespace Place

variable {tokens : List Token} {place : Place} {previous : Token} {index : Bracketed}

theorem eq_of_previous
    (sorted : tokens.Pairwise (fun first second => first.span.start < second.span.start))
    {other : Place} {otherPrevious : Token} (isPlace : place ∈ all tokens)
    (otherIsPlace : other ∈ all tokens) (behind : place.previous = some previous)
    (otherBehind : other.previous = some otherPrevious)
    (same : previous.span.start = otherPrevious.span.start) : place = other := by
  by_contra different
  have apart : (all tokens).Pairwise (fun first second =>
      ∀ tok ∈ first.previous, ∀ later ∈ second.previous, tok.span.start ≠ later.span.start) :=
    (pairwise_previous_all sorted).imp
      (fun less tok isFirst later isSecond => Nat.ne_of_lt (less tok isFirst later isSecond))
  have : Std.Symm (fun first second : Place =>
      ∀ tok ∈ first.previous, ∀ later ∈ second.previous, tok.span.start ≠ later.span.start) :=
    ⟨fun _ _ away tok isFirst later isSecond => (away later isSecond tok isFirst).symm⟩
  exact apart.forall isPlace otherIsPlace different previous behind otherPrevious otherBehind same

theorem OpensIndex.unique {other : Bracketed} (opens : place.OpensIndex previous index)
    (otherOpens : place.OpensIndex previous other) : index = other := by
  obtain ⟨-, -, found, -⟩ := opensIndex_iff.1 opens
  obtain ⟨-, -, otherFound, -⟩ := opensIndex_iff.1 otherOpens
  exact Option.some.inj (found.symm.trans otherFound)

theorem OpensIndex.start_join
    (sorted : tokens.Pairwise (fun first second => first.span.start < second.span.start))
    (member : place ∈ all tokens) (opens : place.OpensIndex previous index) :
    (previous.span.join index.close.span).start = previous.span.start := by
  have ⟨behind, ahead, _⟩ := starts_of_mem_all sorted member
  have early := behind previous (List.mem_of_head? opens.behind)
  have late := ahead index.close (List.mem_cons_of_mem _ (by simp [opens.whole]))
  exact Nat.min_eq_left (by omega)

/-- The rule reports an index that an assignment follows. -/
theorem OpensIndex.join_mem_spans_iff
    (sorted : tokens.Pairwise (fun first second => first.span.start < second.span.start))
    (member : place ∈ all tokens) (opens : place.OpensIndex previous index) :
    previous.span.join index.close.span ∈ RiskMatch.spans .indexedWrite tokens ↔
      index.rest.head?.any Token.isAssignment = true := by
  constructor
  · intro reported
    obtain ⟨other, otherIsPlace, found⟩ := List.mem_filterMap.1 reported
    obtain ⟨otherPrevious, otherIndex, otherOpens, same, assigned⟩ :=
      RiskMatch.indexedWrite?_eq_some_iff.1 found
    have start : previous.span.start = otherPrevious.span.start := by
      rw [← opens.start_join sorted member, same, otherOpens.start_join sorted otherIsPlace]
    obtain rfl := eq_of_previous sorted member otherIsPlace opens.behind otherOpens.behind start
    obtain rfl := Option.some.inj (opens.behind.symm.trans otherOpens.behind)
    rwa [opens.unique otherOpens]
  · intro assigned
    exact List.mem_filterMap.2 ⟨place, member,
      RiskMatch.indexedWrite?_eq_some_iff.2 ⟨previous, index, opens, rfl, assigned⟩⟩

end Place

/-- What is reported are indices.  An index of a text is reported exactly if C reads an assignment
after it, provided that each assignment that is spelled there or that C reads there is spelled as
C reads it, without joined lines, and is no shift; and not otherwise. -/
theorem spans_indexedWrite_iff (text : String) :
    let tokens := significant (scan text)
    (∀ span ∈ RiskMatch.spans .indexedWrite tokens, ∃ place ∈ Place.all tokens,
      ∃ previous index, place.OpensIndex previous index ∧
        span = previous.span.join index.close.span) ∧
    ∀ place ∈ Place.all tokens, ∀ previous index, place.OpensIndex previous index →
      let source := sourceFrom text index.rest
      ((previous.span.join index.close.span ∈ RiskMatch.spans .indexedWrite tokens ↔
          ∃ mark ∈ RiskMatch.assignments, nextPunctuator? source = some mark) ↔
        ∀ mark ∈ RiskMatch.assignments,
          punctuator? source = some mark ∨ nextPunctuator? source = some mark →
            punctuator? source = nextPunctuator? source ∧ mark ∉ shiftAssignments) := by
  intro tokens
  have sorted : tokens.Pairwise (fun first second => first.span.start < second.span.start) :=
    (pairwise_start_scan text).filter _
  constructor
  · intro span reported
    obtain ⟨place, member, found⟩ := List.mem_filterMap.1 reported
    obtain ⟨previous, index, opens, same, -⟩ := RiskMatch.indexedWrite?_eq_some_iff.1 found
    exact ⟨place, member, previous, index, opens, same⟩
  · intro place member previous index opens source
    have inText : ∀ tok ∈ index.rest, tok ∈ scan text := by
      intro tok later
      have inTokens : tok ∈ tokens := by
        rw [← Place.tokens_of_mem_all member, Place.tokens, opens.whole]
        simp [later]
      exact (mem_significant.1 inTokens).1
    rw [opens.join_mem_spans_iff sorted member, isAssignment_iff inText]
    exact reads_alike_iff source

/-- An index inside another one, and a comment before the operator. -/
theorem spans_indexedWrite_iff_nested :
    let text := "a[b[i]] /* = */ |= 1;"
    let tokens := significant (scan text)
    ∃ place ∈ Place.all tokens, ∃ previous index, place.OpensIndex previous index ∧
      nextPunctuator? (sourceFrom text index.rest) = some "|=" ∧
      previous.span.join index.close.span = ⟨0, 7, 1, 1⟩ ∧
      previous.span.join index.close.span ∈ RiskMatch.spans .indexedWrite tokens := by
  intro text tokens
  let place : Place := ⟨[tokens[0]!], tokens[1]!, tokens.drop 2⟩
  let index : Bracketed := ⟨(tokens.drop 2).take 4, tokens[6]!, tokens.drop 7⟩
  have isPlace : place ∈ Place.all tokens := by decide +kernel
  have opens : place.OpensIndex tokens[0]! index := by decide +kernel
  have alike := ((spans_indexedWrite_iff text).2 place isPlace _ index opens).2
    (by decide +kernel)
  exact ⟨place, isPlace, _, index, opens, by decide +kernel, by decide +kernel,
    alike.2 ⟨"|=", by decide, by decide +kernel⟩⟩

/-- A shift that assigns is not seen after an index. -/
theorem spans_indexedWrite_misses_shift :
    let text := "a[i] <<= 1;"
    let tokens := significant (scan text)
    (∃ place ∈ Place.all tokens, ∃ previous index, place.OpensIndex previous index ∧
      nextPunctuator? (sourceFrom text index.rest) = some "<<=") ∧
      "<<=" ∈ RiskMatch.assignments ∧ RiskMatch.spans .indexedWrite tokens = [] := by
  intro text tokens
  let place : Place := ⟨[tokens[0]!], tokens[1]!, tokens.drop 2⟩
  let index : Bracketed := ⟨[tokens[2]!], tokens[3]!, tokens.drop 4⟩
  have opens : place.OpensIndex tokens[0]! index := by decide +kernel
  exact ⟨⟨place, by decide +kernel, _, index, opens, by decide +kernel⟩, by decide,
    by decide +kernel⟩

end CSurvey
