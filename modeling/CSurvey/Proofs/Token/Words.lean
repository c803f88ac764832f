import CSurvey.Proofs.Token.Lookahead

/-!
# Words

A word takes in every character that can go on with it, and nothing else that the
scanner reads ends in the middle of a word.  So no word of a text begins right
after a character of a word, and the text of an identifier is read as nothing but
code.
-/

namespace CSurvey

namespace Lexeme

theorem isWordChar_of_isIdentStart {c : Char} (begins : isIdentStart c = true) :
    isWordChar c = true := by
  simp only [isIdentStart, Bool.or_eq_true] at begins
  rcases begins with letter | underscore
  · simp [isWordChar, Char.isAlphanum, letter]
  · simp [isWordChar, underscore]

theorem isIdentRest_of_isIdentStart {c : Char} (begins : isIdentStart c = true) :
    isIdentRest c = true := by
  simp only [isIdentStart, Bool.or_eq_true] at begins
  rcases begins with letter | underscore
  · simp [isIdentRest, Char.isAlphanum, letter]
  · simp [isIdentRest, underscore]

theorem toList_ne_nil_of_isIdentifier {word : String} (identifier : isIdentifier word = true) :
    word.toList ≠ [] := by
  intro empty
  simp [isIdentifier, empty] at identifier

theorem isIdentRest_of_mem {word : String} (identifier : isIdentifier word = true) {c : Char}
    (member : c ∈ word.toList) : isIdentRest c = true := by
  cases letters : word.toList with
  | nil => simp [letters] at member
  | cons d rest =>
    simp only [isIdentifier, letters, Bool.and_eq_true, List.all_eq_true] at identifier
    rw [letters] at member
    rcases List.mem_cons.1 member with rfl | inRest
    · exact isIdentRest_of_isIdentStart identifier.1
    · exact identifier.2 c inRest

theorem utf8Size_of_isIdentRest {c : Char} (goesOn : isIdentRest c = true) : c.utf8Size = 1 := by
  delta isIdentRest Char.isAlphanum Char.isAlpha Char.isUpper Char.isLower Char.isDigit at goesOn
  simp only [Bool.or_eq_true, Bool.and_eq_true, decide_eq_true_eq, beq_iff_eq] at goesOn
  apply Char.utf8Size_eq_one_iff.2
  rcases goesOn with ((upper | lower) | digit) | rfl
  · exact UInt32.le_trans upper.2 (by decide)
  · exact UInt32.le_trans lower.2 (by decide)
  · exact UInt32.le_trans digit.2 (by decide)
  · decide

theorem newline_not_mem_of_isIdentifier {word : String} (identifier : isIdentifier word = true) :
    '\n' ∉ word.toList := by
  intro newline
  cases isIdentRest_of_mem identifier newline

theorem isWordChar_of_isIdentRest {c : Char} (goesOn : isIdentRest c = true) :
    isWordChar c = true := by
  simp only [isIdentRest, Bool.or_eq_true] at goesOn
  rcases goesOn with letter | underscore
  · simp [isWordChar, letter]
  · simp [isWordChar, underscore]

/-- No word goes on from `front` into `back`. -/
def Parted (front back : List Char) : Prop :=
  ∀ c ∈ front.getLast?, isWordChar c = true → ∀ d ∈ back.head?, isWordChar d = false

theorem parted_of_getLast? {front back : List Char} {c : Char} (last : front.getLast? = some c)
    (other : isWordChar c = false) : Parted front back := by
  intro d isLast word
  obtain rfl : c = d := Option.some.inj (last.symm.trans isLast)
  cases other.symm.trans word

theorem parted_of_head? {front back : List Char}
    (other : ∀ d ∈ back.head?, isWordChar d = false) : Parted front back :=
  fun _ _ _ => other

theorem not_of_mem_head? {test : Char → Bool} {more rest : List Char}
    (read : (more ++ rest).takeWhile test = more) : ∀ d ∈ rest.head?, test d = false := by
  have whole := List.takeWhile_append_dropWhile (p := test) (l := more ++ rest)
  rw [read] at whole
  have stops := List.head?_dropWhile_not test (more ++ rest)
  rw [List.append_cancel_left whole] at stops
  intro d head
  rw [head] at stops
  simpa using stops

theorem getLast?_cons_of_some {c d : Char} {more : List Char} (last : more.getLast? = some d) :
    (c :: more).getLast? = some d := by
  rw [List.getLast?_cons, last]
  rfl

theorem not_isWordChar_of_mem_pairs {c d : Char} (pair : (c, d) ∈ pairs) :
    isWordChar d = false := by
  have marks : ∀ pair ∈ pairs, isWordChar pair.2 = false := by decide
  exact marks (c, d) pair

theorem blockRest_ends {more rest : List Char} {closed : Bool}
    (read : blockRest (more ++ rest) = (more, closed)) :
    more.getLast? = some '/' ∨ rest = [] := by
  generalize eq : more ++ rest = text at read
  fun_induction blockRest text generalizing more closed with
  | case1 => exact Or.inr (List.append_eq_nil_iff.1 eq).2
  | case2 =>
    obtain rfl : ['*', '/'] = more := congrArg Prod.fst read
    exact Or.inl rfl
  | case3 c tail _ inner innerClosed step ih =>
    obtain ⟨rfl, rfl⟩ : c :: inner = more ∧ innerClosed = closed := by simpa using read
    rw [List.cons_append, List.cons.injEq] at eq
    exact (ih eq.2 step).imp_left getLast?_cons_of_some

theorem literalRest_ends {quote : Char} {more rest : List Char} {closed : Bool}
    (read : literalRest quote (more ++ rest) = (more, closed)) :
    more.getLast? = some quote ∨ ∀ d ∈ rest.head?, d = '\n' := by
  generalize eq : more ++ rest = text at read
  fun_induction literalRest quote text generalizing more closed with
  | case1 => simp [(List.append_eq_nil_iff.1 eq).2]
  | case2 =>
    obtain rfl : ['\\'] = more := congrArg Prod.fst read
    simp [List.append_right_eq_self.1 eq]
  | case3 c tail inner innerClosed step ih =>
    obtain ⟨rfl, rfl⟩ : '\\' :: c :: inner = more ∧ innerClosed = closed := by simpa using read
    simp only [List.cons_append, List.cons.injEq, true_and] at eq
    exact (ih eq step).imp_left
      (fun last => getLast?_cons_of_some (getLast?_cons_of_some last))
  | case4 tail notLast notEscape =>
    obtain ⟨rfl, rfl⟩ : [quote] = more ∧ true = closed := by simpa using read
    exact Or.inl rfl
  | case5 tail notLast notEscape notQuote =>
    obtain ⟨rfl, rfl⟩ : [] = more ∧ false = closed := by simpa using read
    rw [List.nil_append] at eq
    simp [eq]
  | case6 c tail notLast notEscape notQuote notNewline inner innerClosed step ih =>
    obtain ⟨rfl, rfl⟩ : c :: inner = more ∧ innerClosed = closed := by simpa using read
    rw [List.cons_append, List.cons.injEq] at eq
    exact (ih eq.2 step).imp_left getLast?_cons_of_some

theorem parted_of_literalRest {quote c : Char} (other : isWordChar quote = false)
    {more rest : List Char} {closed : Bool}
    (read : literalRest quote (more ++ rest) = (more, closed)) : Parted (c :: more) rest := by
  rcases literalRest_ends read with last | newline
  · exact parted_of_getLast? (getLast?_cons_of_some last) other
  · refine parted_of_head? (fun d head => ?_)
    rw [newline d head]
    rfl

theorem parted_after {c : Char} {more rest : List Char} {kind : TokenKind} {closed : Bool}
    (read : after c (more ++ rest) = (kind, more, closed)) : Parted (c :: more) rest := by
  unfold after at read
  split at read
  · obtain ⟨-, taken, -⟩ := by simpa only [Prod.mk.injEq] using read
    refine parted_of_head? (fun d head => ?_)
    have newline : d = '\n' := by simpa using not_of_mem_head? taken d head
    rw [newline]
    rfl
  split at read
  · rename_i block
    simp only [Prod.mk.injEq] at read
    obtain ⟨-, taken, ends⟩ := read
    obtain ⟨inner, rfl⟩ : ∃ inner, more = '*' :: inner := ⟨_, taken.symm⟩
    simp only [List.cons_append, List.tail_cons, List.cons.injEq, true_and] at taken ends
    rcases blockRest_ends (Prod.ext taken ends) with last | rfl
    · exact parted_of_getLast? (getLast?_cons_of_some (getLast?_cons_of_some last)) rfl
    · exact parted_of_head? (by simp)
  split at read
  · simp only [Prod.mk.injEq] at read
    exact parted_of_literalRest rfl (Prod.ext read.2.1 read.2.2)
  split at read
  · simp only [Prod.mk.injEq] at read
    exact parted_of_literalRest rfl (Prod.ext read.2.1 read.2.2)
  split at read
  · obtain ⟨-, taken, -⟩ := by simpa only [Prod.mk.injEq] using read
    refine parted_of_head? (fun d head => ?_)
    have stops := not_of_mem_head? taken d head
    simp only [Bool.or_eq_false_iff] at stops
    exact stops.1
  rename_i notWord
  split at read
  · obtain ⟨-, rfl, -⟩ := by simpa only [Prod.mk.injEq] using read
    exact parted_of_getLast? rfl rfl
  split at read
  · rename_i pair
    obtain ⟨-, taken, -⟩ := by simpa only [Prod.mk.injEq] using read
    cases whole : more ++ rest with
    | nil => simp [whole] at pair
    | cons d tail =>
      rw [whole, List.head?_cons, Option.any_some] at pair
      rw [whole] at taken
      obtain rfl : [d] = more := taken
      have mark := not_isWordChar_of_mem_pairs (List.contains_iff_mem.1 pair)
      exact parted_of_getLast? (getLast?_cons_of_some rfl) mark
  · obtain ⟨-, rfl, -⟩ := by simpa only [Prod.mk.injEq] using read
    exact parted_of_getLast? rfl (by simpa using notWord)

/-- Only what begins with a mark is something other than code. -/
theorem kind_after_of_isWordChar {c : Char} (word : isWordChar c = true) (rest : List Char) :
    (after c rest).1 = .code := by
  have notSlash : c ≠ '/' := by rintro rfl; cases word
  have notString : c ≠ '"' := by rintro rfl; cases word
  have notChar : c ≠ '\'' := by rintro rfl; cases word
  simp [after, notSlash, notString, notChar, word]

end Lexeme

namespace ScanState

theorem Run.exists_word {first last : ScanState} {cs passed : List Char} {tokens : List Token}
    (run : Run first cs tokens last []) (here : At passed first)
    (parted : Lexeme.Parted passed cs) {tok : Token} (member : tok ∈ tokens)
    (word : isIdentifier tok.text = true) :
    tok.isCode = true ∧ ∃ front back, passed ++ cs = front ++ (tok.text.toList ++ back) ∧
      tok.span = Span.cover front tok.text.toList ∧
        ∀ c ∈ front.getLast?, Lexeme.isWordChar c = false := by
  generalize nothing : ([] : List Char) = rest at run
  induction run generalizing passed with
  | done => cases member
  | @step first second third cs middle rest early late head tail ih =>
    subst nothing
    cases head with
    | newline =>
      simpa using ih here.newline (Lexeme.parted_of_getLast? List.getLast?_concat rfl) member rfl
    | @gap c _ blank =>
      have other : Lexeme.isWordChar c = false := by
        simp only [Lexeme.isGap, Bool.or_eq_true, beq_iff_eq] at blank
        rcases blank with (((rfl | rfl) | rfl) | rfl) | rfl <;> rfl
      simpa using ih (here.gap blank) (Lexeme.parted_of_getLast? List.getLast?_concat other)
        member rfl
    | @token c kind more closed _ solid read =>
      rcases List.mem_cons.1 member with rfl | later
      · have spelled :
            ((first.opened c).emit kind (c :: more) closed).1.text.toList = c :: more := by
          rw [emit_text, String.toList_ofList]
        have begins : Lexeme.isWordChar c = true := by
          simp only [isIdentifier, spelled, Bool.and_eq_true] at word
          exact Lexeme.isWordChar_of_isIdentStart word.1
        have code := Lexeme.kind_after_of_isWordChar begins (more ++ middle)
        rw [read] at code
        rw [spelled]
        refine ⟨beq_iff_eq.2 code, passed, middle, rfl,
          (here.opened c).emit_span kind (c :: more) closed, fun d isLast => ?_⟩
        refine Bool.eq_false_iff.2 (fun goesOn => ?_)
        cases begins.symm.trans (parted d isLast goesOn c rfl)
      · have seam : Lexeme.Parted (passed ++ c :: more) middle := by
          intro d isLast
          rw [List.getLast?_append, List.getLast?_cons] at isLast
          exact Lexeme.parted_after read d (by rw [List.getLast?_cons]; exact isLast)
        simpa using ih ((here.opened c).emit kind (c :: more) closed) seam later rfl

end ScanState

theorem exists_word_of_mem_scan {text : String} {tok : Token} (member : tok ∈ scan text)
    (word : isIdentifier tok.text = true) :
    tok.isCode = true ∧ ∃ front back, text.toList = front ++ (tok.text.toList ++ back) ∧
      tok.span = Span.cover front tok.text.toList ∧
        ∀ c ∈ front.getLast?, Lexeme.isWordChar c = false := by
  obtain ⟨last, run⟩ := exists_run_scan text
  exact run.exists_word .initial (fun _ none _ => nomatch none) member word

end CSurvey
