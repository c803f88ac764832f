import CSurvey.Proofs.Token.Nesting
import Mathlib.Data.List.TakeWhile

/-!
# The parts of a definition

What follows a name is a definition by its own tokens: a parameter list is closed
by its own parenthesis, and a body by the first brace that gets back to its
depth.  So a definition is found again among its tokens alone, and if more tokens
make a definition of what was none, its opening brace is one of them.
-/

namespace CSurvey.Definition

/-- Whether a token can stand in a parameter list. -/
def isParameter (tok : Token) : Bool :=
  !(tok.isPunct ";" || tok.isPunct Token.openBrace || tok.isPunct Token.closeBrace)

def header (definition : Definition) : List Token :=
  definition.openParen :: (definition.params ++ [definition.closeParen])

/-- The tokens after the opening brace. -/
def bodyTokens (definition : Definition) : List Token :=
  definition.inner ++ definition.closeBrace.toList

/-- All tokens of a definition after its name. -/
def tokens (definition : Definition) : List Token :=
  definition.header ++ definition.openBrace :: definition.bodyTokens

/-- The definition with the same header before other tokens. -/
def withBody (definition : Definition) (body : List Token) : Definition :=
  { definition with
    inner := body.takeWhile (fun tok => !closes definition.openBrace.depth tok)
    closeBrace := (body.dropWhile (fun tok => !closes definition.openBrace.depth tok)).head? }

/-- Each part of a definition is what its name says. -/
structure Formed (definition : Definition) : Prop where
  openParen : definition.openParen.isPunct "(" = true
  params : ∀ tok ∈ definition.params, isParameter tok = true
  closeParen : definition.closeParen.isPunct ")" = true
  openBrace : definition.openBrace.isPunct Token.openBrace = true
  inner : ∀ tok ∈ definition.inner, closes definition.openBrace.depth tok = false
  closeBrace : ∀ tok ∈ definition.closeBrace, closes definition.openBrace.depth tok = true

theorem isParameter_of_isPunct {tok : Token} {mark : String} (here : tok.isPunct mark = true)
    (other : mark ∉ [";", Token.openBrace, Token.closeBrace]) : isParameter tok = true := by
  simp only [List.mem_cons, List.not_mem_nil, or_false, not_or] at other
  obtain ⟨one, two, three⟩ := other
  simp [isParameter, Token.not_isPunct_of_isPunct here one, Token.not_isPunct_of_isPunct here two,
    Token.not_isPunct_of_isPunct here three]

theorem isParameter_of_isIdent {tok : Token} (word : tok.isIdent = true) :
    isParameter tok = true := by
  have other : ∀ mark, isIdentifier mark = false → tok.isPunct mark = false := by
    intro mark notWord
    rw [← Bool.not_eq_true]
    intro isMark
    rw [Token.isPunct_iff] at isMark
    simp [Token.isIdent, isMark.2, notWord] at word
  simp [isParameter, other ";" (by decide), other Token.openBrace (by decide),
    other Token.closeBrace (by decide)]

theorem isParameter_of_isTypeWord {tok : Token} (word : isTypeWord tok = true) :
    isParameter tok = true := by
  rcases Bool.or_eq_true_iff.1 word with ident | star
  · exact isParameter_of_isIdent ident
  · exact isParameter_of_isPunct star (by decide)

theorem isBrace_of_isParameter {tok : Token} (inside : isParameter tok = true) :
    tok.isBrace = false := by
  simp_all [isParameter, Token.isBrace]

@[simp]
theorem length_tokens (definition : Definition) :
    definition.tokens.length = definition.tokenCount := by
  cases brace : definition.closeBrace <;>
    simp only [tokens, header, bodyTokens, tokenCount, brace, Option.toList_none,
      Option.toList_some, List.length_append, List.length_cons, List.length_nil,
      Option.isSome_none, Option.isSome_some, if_true, Bool.false_eq_true, if_false] <;>
    omega

theorem paramList_eq_some {level : Nat} {passed tokens params rest : List Token} {close : Token}
    (found : paramList level passed tokens = some (params, close, rest)) :
    ∃ more, tokens = more ++ close :: rest ∧ params = passed.reverse ++ more ∧
      close.isPunct ")" = true ∧ (∀ tok ∈ more, isParameter tok = true) ∧
      ∀ other, paramList level passed (more ++ close :: other) = some (params, close, other) := by
  fun_induction paramList level passed tokens with
  | case1 => cases found
  | case2 level passed tok tail opens ih =>
    obtain ⟨more, rfl, eq, closes, inside, again⟩ := ih found
    have parameter := isParameter_of_isPunct opens (by decide)
    refine ⟨tok :: more, rfl, by simpa using eq, closes,
      List.forall_mem_cons.2 ⟨parameter, inside⟩, fun other => ?_⟩
    rw [List.cons_append, paramList, if_pos opens]
    exact again other
  | case3 level passed tok tail notOpen closing last =>
    obtain ⟨rfl, rfl, rfl⟩ : passed.reverse = params ∧ tok = close ∧ tail = rest := by
      simpa using found
    refine ⟨[], rfl, by simp, closing, by simp, fun other => ?_⟩
    rw [List.nil_append, paramList, if_neg notOpen, if_pos closing, if_pos last]
  | case4 level passed tok tail notOpen closing inner ih =>
    obtain ⟨more, rfl, eq, closes, inside, again⟩ := ih found
    have parameter := isParameter_of_isPunct closing (by decide)
    refine ⟨tok :: more, rfl, by simpa using eq, closes,
      List.forall_mem_cons.2 ⟨parameter, inside⟩, fun other => ?_⟩
    rw [List.cons_append, paramList, if_neg notOpen, if_pos closing, if_neg inner]
    exact again other
  | case5 => cases found
  | case6 level passed tok tail notOpen notClose other ih =>
    obtain ⟨more, rfl, eq, closes, inside, again⟩ := ih found
    have parameter : isParameter tok = true := by simpa [isParameter] using other
    refine ⟨tok :: more, rfl, by simpa using eq, closes,
      List.forall_mem_cons.2 ⟨parameter, inside⟩, fun following => ?_⟩
    rw [List.cons_append, paramList, if_neg notOpen, if_neg notClose, if_neg other]
    exact again following

theorem withBody_parts (definition : Definition) (body : List Token) :
    (∀ tok ∈ (definition.withBody body).inner, closes definition.openBrace.depth tok = false) ∧
      (∀ tok ∈ (definition.withBody body).closeBrace,
        closes definition.openBrace.depth tok = true) ∧
      ∃ rest, body = (definition.withBody body).bodyTokens ++ rest ∧
        ((definition.withBody body).closeBrace = none → rest = []) := by
  have whole := List.takeWhile_append_dropWhile
    (p := fun tok => !closes definition.openBrace.depth tok) (l := body)
  refine ⟨fun tok member => by simpa using List.mem_takeWhile_imp member, ?_⟩
  cases back : body.dropWhile (fun tok => !closes definition.openBrace.depth tok) with
  | nil =>
    have unclosed : (definition.withBody body).closeBrace = none := by
      rw [withBody, back, List.head?_nil]
    rw [back] at whole
    refine ⟨by simp [unclosed], [], ?_, fun _ => rfl⟩
    rw [bodyTokens, unclosed, Option.toList_none, List.append_assoc]
    exact whole.symm
  | cons close rest =>
    have closed : (definition.withBody body).closeBrace = some close := by
      rw [withBody, back, List.head?_cons]
    have closing := List.head?_dropWhile_not
      (fun tok => !closes definition.openBrace.depth tok) body
    rw [back] at whole closing
    refine ⟨?_, rest, ?_, fun unclosed => ?_⟩
    · rw [closed]
      simpa using closing
    · rw [bodyTokens, closed, Option.toList_some, List.append_assoc]
      exact whole.symm
    · rw [closed] at unclosed
      cases unclosed

/-- A body that is followed by nothing when it is not closed is found again. -/
theorem withBody_bodyTokens {definition : Definition} (formed : definition.Formed)
    {rest : List Token} (atEnd : definition.closeBrace = none → rest = []) :
    definition.withBody (definition.bodyTokens ++ rest) = definition := by
  have inner : ∀ tok ∈ definition.inner,
      (!closes definition.openBrace.depth tok) = true := by
    simpa using formed.inner
  cases brace : definition.closeBrace with
  | none =>
    rw [withBody, bodyTokens, brace, atEnd brace, Option.toList_none, List.append_nil,
      List.append_nil, List.takeWhile_eq_self_iff.2 inner, List.dropWhile_eq_nil_iff.2 inner,
      List.head?_nil, ← brace]
  | some close =>
    have closing := formed.closeBrace close brace
    rw [withBody, bodyTokens, brace, Option.toList_some, List.append_assoc,
      List.takeWhile_append_of_pos inner, List.dropWhile_append_of_pos inner]
    simp [closing, ← brace]

theorem ofTokens?_eq_some {tokens : List Token} {definition : Definition}
    (found : ofTokens? tokens = some definition) :
    definition.Formed ∧
      (∃ rest, tokens = definition.tokens ++ rest ∧ (definition.closeBrace = none → rest = [])) ∧
      ∀ body, ofTokens? (definition.header ++ definition.openBrace :: body) =
        some (definition.withBody body) := by
  unfold ofTokens? at found
  split at found
  case h_1 => cases found
  rename_i openParen tail
  split at found
  case isFalse => cases found
  rename_i opens
  split at found
  case h_2 => cases found
  rename_i params closeParen openBrace bodyRest list
  split at found
  case isFalse => cases found
  rename_i brace
  obtain ⟨more, rfl, eq, closing, inside, again⟩ := paramList_eq_some list
  obtain rfl : params = more := by simpa using eq
  obtain rfl := Option.some.inj found
  let bare : Definition := ⟨openParen, params, closeParen, openBrace, [], none⟩
  obtain ⟨inner, closeBrace, rest, whole, atEnd⟩ := bare.withBody_parts bodyRest
  refine ⟨⟨opens, inside, closing, brace, inner, closeBrace⟩, ⟨rest, ?_, atEnd⟩, fun body => ?_⟩
  · have parts : (bare.withBody bodyRest).tokens ++ rest = openParen ::
        (params ++ closeParen :: openBrace :: ((bare.withBody bodyRest).bodyTokens ++ rest)) := by
      simp [Definition.tokens, header, withBody, bare]
    rw [← whole] at parts
    exact parts.symm
  · simp only [header, List.cons_append, List.append_assoc, List.nil_append, ofTokens?, opens,
      again, brace, if_true]
    rfl

/-- A definition is found again by its own tokens, if only nothing follows one that is not
closed. -/
theorem ofTokens?_tokens {tokens : List Token} {definition : Definition}
    (found : ofTokens? tokens = some definition) {rest : List Token}
    (atEnd : definition.closeBrace = none → rest = []) :
    ofTokens? (definition.tokens ++ rest) = some definition := by
  obtain ⟨formed, -, again⟩ := ofTokens?_eq_some found
  rw [Definition.tokens, List.append_assoc, List.cons_append, again,
    withBody_bodyTokens formed atEnd]

theorem openBrace_mem_of_append {front back : List Token} {definition : Definition}
    (notFound : ofTokens? front = none) (found : ofTokens? (front ++ back) = some definition) :
    definition.openBrace ∈ back := by
  obtain ⟨-, ⟨rest, whole, -⟩, again⟩ := ofTokens?_eq_some found
  rw [Definition.tokens, List.append_assoc, List.cons_append] at whole
  rcases List.append_eq_append_iff.1 whole with ⟨more, -, inBack⟩ | ⟨more, inFront, following⟩
  · rw [inBack]
    exact List.mem_append_right _ (List.mem_cons_self ..)
  · cases more with
    | nil =>
      rw [List.nil_append] at following
      rw [← following]
      exact List.mem_cons_self ..
    | cons first more =>
      rw [List.cons_append, List.cons.injEq] at following
      rw [inFront, ← following.1, again] at notFound
      cases notFound

end CSurvey.Definition
