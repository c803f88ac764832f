import CSurvey.Proofs.Token.Nesting

/-!
# Braces match

The depth that the scanner notes at a token is a number; a number does not say
which braces are open.  Here the open braces are kept as a list, the innermost
first, which an opening brace of code enters and a closing one of code leaves.
The depth is the length of that list.  So the first later closing brace at the
depth of an opening brace takes just that brace off the list, and the braces
between the two are balanced.
-/

namespace CSurvey

namespace Token

def isOpening (tok : Token) : Bool :=
  tok.isPunct openBrace && !tok.directive

theorem isClosing_of_isOpening {tok : Token} (opening : tok.isOpening = true) :
    tok.isClosing = false := by
  rw [isOpening, Bool.and_eq_true] at opening
  exact isClosing_of_isPunct_openBrace opening.1

theorem isOpening_of_isClosing {tok : Token} (closing : tok.isClosing = true) :
    tok.isOpening = false := by
  rw [← Bool.not_eq_true]
  intro opening
  cases (isClosing_of_isOpening opening).symm.trans closing

theorem depthAfter_of_isOpening {tok : Token} (opening : tok.isOpening = true) :
    tok.depthAfter = tok.depth + 1 :=
  if_pos opening

theorem depthAfter_of_not_isOpening {tok : Token} (other : tok.isOpening = false) :
    tok.depthAfter = tok.depth := by
  apply if_neg
  rw [← isOpening, other]
  exact Bool.false_ne_true

end Token

/-- The opening braces without partner after some tokens, the innermost first, when those of
`outer` had none before them.  A closing brace that finds none is passed over. -/
def bracesOpen (outer : List Token) : List Token → List Token
  | [] => outer
  | tok :: rest =>
    if tok.isOpening then bracesOpen (tok :: outer) rest
    else if tok.isClosing then bracesOpen outer.tail rest
    else bracesOpen outer rest

theorem bracesOpen_append (outer front back : List Token) :
    bracesOpen outer (front ++ back) = bracesOpen (bracesOpen outer front) back := by
  fun_induction bracesOpen outer front with
  | case1 => rfl
  | case2 outer tok rest opening ih => rw [List.cons_append, bracesOpen, if_pos opening, ih]
  | case3 outer tok rest notOpening closing ih =>
    rw [List.cons_append, bracesOpen, if_neg notOpening, if_pos closing, ih]
  | case4 outer tok rest notOpening notClosing ih =>
    rw [List.cons_append, bracesOpen, if_neg notOpening, if_neg notClosing, ih]

/-- Only braces of code matter. -/
theorem bracesOpen_filter (outer tokens : List Token) :
    bracesOpen outer (tokens.filter (fun tok => tok.isOpening || tok.isClosing)) =
      bracesOpen outer tokens := by
  induction tokens generalizing outer with
  | nil => rfl
  | cons tok rest ih =>
    cases opening : tok.isOpening <;> cases closing : tok.isClosing <;>
      simp [bracesOpen, opening, closing, ih]

theorem bracesOpen_skip {outer front back : List Token} {tok : Token}
    (apart : tok.kind.isLiteral = true ∨ tok.isComment = true ∨ tok.directive = true) :
    bracesOpen outer (front ++ tok :: back) = bracesOpen outer (front ++ back) := by
  have neither : tok.isOpening = false ∧ tok.isClosing = false := by
    rcases apart with literal | comment | directive
    · cases kind : tok.kind <;>
        simp_all [TokenKind.isLiteral, Token.isOpening, Token.isClosing, Token.isPunct,
          Token.isCode]
    · simp [Token.isOpening, Token.isClosing, Token.isPunct_of_isComment comment]
    · simp [Token.isOpening, Token.isClosing, directive]
  rw [bracesOpen_append, bracesOpen_append]
  simp [bracesOpen, neither]

/-- Each brace has its partner among the tokens. -/
inductive Balanced : List Token → Prop
  | nil : Balanced []
  | pass {tok : Token} {rest : List Token} (notOpening : tok.isOpening = false)
      (notClosing : tok.isClosing = false) (tail : Balanced rest) : Balanced (tok :: rest)
  | group {opening closing : Token} {inner rest : List Token}
      (opens : opening.isOpening = true) (inside : Balanced inner)
      (closes : closing.isClosing = true) (tail : Balanced rest) :
      Balanced (opening :: (inner ++ closing :: rest))

namespace Balanced

variable {tokens front back : List Token}

theorem append (first : Balanced front) (second : Balanced back) : Balanced (front ++ back) := by
  induction first with
  | nil => exact second
  | pass notOpening notClosing tail ih => exact .pass notOpening notClosing ih
  | group opens inside closes tail insideIH ih =>
    rw [List.cons_append, List.append_assoc, List.cons_append]
    exact .group opens inside closes ih

theorem bracesOpen_eq (balanced : Balanced tokens) (outer : List Token) :
    bracesOpen outer tokens = outer := by
  induction balanced generalizing outer with
  | nil => rfl
  | pass notOpening notClosing tail ih => simp [bracesOpen, notOpening, notClosing, ih]
  | group opens inside closes tail insideIH ih =>
    simp [bracesOpen, opens, bracesOpen_append, insideIH, closes,
      Token.isOpening_of_isClosing closes, ih]

end Balanced

namespace Nested

variable {first last depth : Nat} {tokens : List Token}

theorem length_bracesOpen {outer : List Token} (nested : Nested outer.length tokens last) :
    (bracesOpen outer tokens).length = last := by
  fun_induction bracesOpen outer tokens with
  | case1 => exact nested
  | case2 outer tok rest opening ih =>
    obtain ⟨here, nested⟩ := nested
    rw [Token.isClosing_of_isOpening opening, if_neg Bool.false_ne_true] at here
    rw [Token.depthAfter_of_isOpening opening, here] at nested
    exact ih nested
  | case3 outer tok rest notOpening closing ih =>
    obtain ⟨here, nested⟩ := nested
    rw [if_pos closing] at here
    rw [Token.depthAfter_of_not_isOpening (by simpa using notOpening), here] at nested
    apply ih
    rwa [List.length_tail]
  | case4 outer tok rest notOpening notClosing ih =>
    obtain ⟨here, nested⟩ := nested
    rw [if_neg notClosing] at here
    rw [Token.depthAfter_of_not_isOpening (by simpa using notOpening), here] at nested
    exact ih nested

/-- As long as no closing brace gets back to `depth`, all tokens stand deeper. -/
theorem lt_depth (nested : Nested first tokens last) (inside : depth < first)
    (unclosed : ∀ tok ∈ tokens, tok.isClosing = true → tok.depth ≠ depth) :
    depth < last ∧ ∀ tok ∈ tokens, depth < tok.depth := by
  induction tokens generalizing first with
  | nil =>
    have same : first = last := nested
    exact ⟨by omega, by simp⟩
  | cons tok rest ih =>
    obtain ⟨here, nested⟩ := nested
    obtain ⟨notBack, unclosed⟩ := List.forall_mem_cons.1 unclosed
    have deeper : depth < tok.depth := by
      by_cases closing : tok.isClosing = true
      · have away := notBack closing
        rw [if_pos closing] at here
        omega
      · rw [if_neg closing] at here
        omega
    obtain ⟨atEnd, later⟩ :=
      ih nested (Nat.lt_of_lt_of_le deeper tok.depth_le_depthAfter) unclosed
    exact ⟨atEnd, List.forall_mem_cons.2 ⟨deeper, later⟩⟩

/-- What stands between an opening brace and the first closing brace at its depth. -/
theorem exists_closing (nested : Nested (depth + 1) tokens last) (ends : last ≤ depth) :
    ∃ (inner : List Token) (closing : Token) (rest : List Token),
      tokens = inner ++ closing :: rest ∧ closing.isClosing = true ∧
      closing.depth = depth ∧ ∀ tok ∈ inner, tok.isClosing = true → tok.depth ≠ depth := by
  cases found : tokens.find? (fun tok => tok.isClosing && tok.depth == depth) with
  | none =>
    have unclosed : ∀ tok ∈ tokens, tok.isClosing = true → tok.depth ≠ depth := by
      simpa using List.find?_eq_none.1 found
    have beyond := (nested.lt_depth (Nat.lt_succ_self _) unclosed).1
    omega
  | some closing =>
    obtain ⟨isFirst, inner, rest, eq, unclosed⟩ := List.find?_eq_some_iff_append.1 found
    simp only [Bool.and_eq_true, beq_iff_eq] at isFirst
    refine ⟨inner, closing, rest, eq, isFirst.1, isFirst.2, ?_⟩
    intro tok member closes same
    simpa [closes, same] using unclosed tok member

/-- Up to the first closing brace at the depth of an opening brace all tokens stand deeper, and
that closing brace ends what began at the depth after the opening one. -/
theorem of_exists_closing {inner rest : List Token} {closing : Token}
    (nested : Nested (depth + 1) (inner ++ closing :: rest) last)
    (closes : closing.isClosing = true) (back : closing.depth = depth)
    (unclosed : ∀ tok ∈ inner, tok.isClosing = true → tok.depth ≠ depth) :
    (∀ tok ∈ inner, depth < tok.depth) ∧ Nested (depth + 1) inner (depth + 1) ∧
      Nested depth rest last := by
  obtain ⟨middle, inside, here, after⟩ := Nested.append_iff.1 nested
  obtain ⟨beyond, deeper⟩ := inside.lt_depth (Nat.lt_succ_self _) unclosed
  rw [if_pos closes, back] at here
  obtain rfl : middle = depth + 1 := by omega
  rw [Token.depthAfter_of_not_isOpening (Token.isOpening_of_isClosing closes), back] at after
  exact ⟨deeper, inside, after⟩

/-- Tokens that begin and end at one depth, and never get out of it, are balanced. -/
theorem balanced {depth : Nat} {tokens : List Token}
    (nested : Nested (depth + 1) tokens (depth + 1)) (deeper : ∀ tok ∈ tokens, depth < tok.depth) :
    Balanced tokens := by
  match tokens with
  | [] => exact .nil
  | tok :: rest =>
    obtain ⟨here, nested⟩ := nested
    obtain ⟨deep, deeper⟩ := List.forall_mem_cons.1 deeper
    have notClosing : tok.isClosing = false := by
      rw [← Bool.not_eq_true]
      intro closing
      rw [if_pos closing] at here
      omega
    rw [notClosing, if_neg Bool.false_ne_true] at here
    cases opening : tok.isOpening with
    | false =>
      rw [Token.depthAfter_of_not_isOpening opening, here] at nested
      exact .pass opening notClosing (nested.balanced deeper)
    | true =>
      rw [Token.depthAfter_of_isOpening opening, here] at nested
      obtain ⟨inner, closing, more, whole, closes, back, unclosed⟩ :=
        nested.exists_closing (Nat.le_refl _)
      have shorter : inner.length < rest.length ∧ more.length < rest.length := by
        rw [whole, List.length_append, List.length_cons]
        omega
      rw [whole] at nested deeper ⊢
      obtain ⟨deeperInside, inside, after⟩ := nested.of_exists_closing closes back unclosed
      exact .group opening (inside.balanced deeperInside) closes
        (after.balanced (fun tok member => deeper tok (by simp [member])))
termination_by tokens.length
decreasing_by
  all_goals simp only [List.length_cons]
  all_goals omega

end Nested

/-- The closing brace takes just the opening one off the open braces, and all between the two
stands deeper and is balanced. -/
structure Partners (front : List Token) (opening : Token) (inner : List Token)
    (closing : Token) : Prop where
  deeper : ∀ tok ∈ inner, opening.depth < tok.depth
  balanced : Balanced inner
  stillOpen : bracesOpen [] (front ++ opening :: inner) = opening :: bracesOpen [] front
  closed : bracesOpen [] (front ++ opening :: (inner ++ [closing])) = bracesOpen [] front

section Text

variable {text : String} {front back : List Token} {tok : Token}

/-- The tokens around one of a text stand at the depths that the open braces give. -/
theorem nested_bracesOpen (whole : scan text = front ++ tok :: back) :
    ∃ last, Nested (bracesOpen [] front).length (tok :: back) last := by
  obtain ⟨last, nested⟩ := nested_scan text
  rw [whole] at nested
  obtain ⟨middle, before, after⟩ := Nested.append_iff.1 nested
  have depth : (bracesOpen [] front).length = middle :=
    Nested.length_bracesOpen (show Nested ([] : List Token).length front middle from before)
  rw [depth]
  exact ⟨last, after⟩

theorem depth_eq_length_bracesOpen (whole : scan text = front ++ tok :: back) :
    tok.depth = (bracesOpen [] (if tok.isClosing then front ++ [tok] else front)).length := by
  obtain ⟨last, here, -⟩ := nested_bracesOpen whole
  rw [here]
  cases closing : tok.isClosing with
  | false => rfl
  | true =>
    have notOpening := Token.isOpening_of_isClosing closing
    simp [bracesOpen_append, bracesOpen, notOpening, closing]

/-- After an opening brace one more brace is open. -/
theorem nested_of_isOpening (whole : scan text = front ++ tok :: back)
    (opening : tok.isOpening = true) : ∃ last, Nested (tok.depth + 1) back last := by
  obtain ⟨last, -, after⟩ := nested_bracesOpen whole
  rw [Token.depthAfter_of_isOpening opening] at after
  exact ⟨last, after⟩

theorem partners_of_first {inner : List Token} {closing : Token}
    (whole : scan text = front ++ tok :: (inner ++ closing :: back))
    (opens : tok.isOpening = true) (closes : closing.isClosing = true)
    (same : closing.depth = tok.depth)
    (first : ∀ other ∈ inner, other.isClosing = true → other.depth ≠ tok.depth) :
    Partners front tok inner closing := by
  obtain ⟨last, nested⟩ := nested_of_isOpening whole opens
  obtain ⟨deeper, inside, -⟩ := nested.of_exists_closing closes same first
  have balanced := inside.balanced deeper
  have stillOpen : bracesOpen [] (front ++ tok :: inner) = tok :: bracesOpen [] front := by
    rw [bracesOpen_append, bracesOpen, if_pos opens, balanced.bracesOpen_eq]
  refine ⟨deeper, balanced, stillOpen, ?_⟩
  rw [← List.cons_append, ← List.append_assoc, bracesOpen_append, stillOpen]
  simp [bracesOpen, Token.isOpening_of_isClosing closes, closes]

end Text

/-- The depth of each token of a text is the number of braces open at it, before an opening brace
and after a closing one.  Only braces of code outside directives count, and a closing brace without
partner is passed over.  The first later closing brace at the depth of an opening brace is its
partner; if there is none, all later tokens stand deeper.  Literals, comments and directives can be
left out of the count. -/
theorem scan_matches_braces (text : String) :
    (∀ (front : List Token) (tok : Token) (back : List Token), scan text = front ++ tok :: back →
      tok.depth = (bracesOpen [] ((if tok.isClosing then front ++ [tok] else front).filter
        (fun other => other.isOpening || other.isClosing))).length) ∧
    (∀ (front : List Token) (opening : Token) (inner : List Token) (closing : Token)
        (back : List Token),
      scan text = front ++ opening :: (inner ++ closing :: back) →
      opening.isOpening = true → closing.isClosing = true → closing.depth = opening.depth →
      (∀ tok ∈ inner, tok.isClosing = true → tok.depth ≠ opening.depth) →
        Partners front opening inner closing) ∧
    (∀ (front : List Token) (opening : Token) (back : List Token),
      scan text = front ++ opening :: back → opening.isOpening = true →
      (∀ tok ∈ back, tok.isClosing = true → tok.depth ≠ opening.depth) →
        ∀ tok ∈ back, opening.depth < tok.depth) ∧
    ∀ (front : List Token) (other : Token) (middle : List Token) (tok : Token)
        (back : List Token), scan text = front ++ other :: (middle ++ tok :: back) →
      (other.kind.isLiteral = true ∨ other.isComment = true ∨ other.directive = true) →
        tok.depth = (bracesOpen []
          (if tok.isClosing then front ++ (middle ++ [tok]) else front ++ middle)).length := by
  refine ⟨?_, ?_, ?_, ?_⟩
  · intro front tok back whole
    rw [bracesOpen_filter]
    exact depth_eq_length_bracesOpen whole
  · intro front opening inner closing back whole opens closes same first
    exact partners_of_first whole opens closes same first
  · intro front opening back whole opens unclosed
    obtain ⟨last, nested⟩ := nested_of_isOpening whole opens
    exact (nested.lt_depth (Nat.lt_succ_self _) unclosed).2
  · intro front other middle tok back whole apart
    rw [← List.cons_append, ← List.append_assoc] at whole
    rw [depth_eq_length_bracesOpen whole]
    split
    · rw [List.append_assoc, List.cons_append, bracesOpen_skip apart]
    · rw [bracesOpen_skip apart]

/-- A closing brace without partner in front of a body that holds braces of all kinds. -/
theorem scan_matches_braces_of_all_kinds :
    let text := "\x7d\nint f()\n\x7b\n#define OPEN \x7b\n  g(\"\x7d\");\n  \x7b \x7d\n\x7d\n"
    let tokens := scan text
    let opening := tokens.getD 5 default
    let closing := tokens.getD 17 default
    (opening.isOpening = true ∧ opening.depth = 0 ∧ closing.isClosing = true) ∧
      Partners (tokens.take 5) opening ((tokens.drop 6).take 11) closing := by
  intro text tokens opening closing
  have whole : scan text =
      tokens.take 5 ++ opening :: ((tokens.drop 6).take 11 ++ closing :: []) := by
    decide +kernel
  have opens : opening.isOpening = true := by decide +kernel
  have closes : closing.isClosing = true := by decide +kernel
  refine ⟨⟨opens, by decide +kernel, closes⟩, ?_⟩
  apply (scan_matches_braces text).2.1 _ _ _ _ _ whole opens closes
  · decide +kernel
  · decide +kernel

end CSurvey
