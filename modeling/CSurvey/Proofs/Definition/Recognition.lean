import CSurvey.Proofs.Definition.Sites
import CSurvey.Proofs.Token.Place

/-!
# Recognizing definitions

Whether a token names a definition can be asked of every token by itself, while the
search for definitions passes over whole definitions.  Both find the same names: no
token inside a definition names another one.  In the parameter list, parentheses
opened later are closed earlier, so that no brace follows them; in the body, all
tokens stand inside its braces.
-/

namespace CSurvey

namespace Definition

theorem exists_head_of_paramList {level : Nat} {passed tokens : List Token}
    {found : List Token × Token × List Token} (list : paramList level passed tokens = some found) :
    ∃ head rest, tokens = head :: rest ∧ isParameter head = true := by
  obtain ⟨params, close, rest⟩ := found
  obtain ⟨more, rfl, -, closing, inside, -⟩ := paramList_eq_some list
  cases more with
  | nil => exact ⟨close, rest, rfl, isParameter_of_isPunct closing (by decide)⟩
  | cons head more => exact ⟨head, more ++ close :: rest, rfl, inside head (List.mem_cons_self ..)⟩

theorem exists_inner_paramList {outer inner : Nat} {passed tokens : List Token}
    {found : List Token × Token × List Token} (other : List Token)
    (list : paramList outer passed tokens = some found) (positive : 1 ≤ inner)
    (deeper : inner < outer) :
    ∃ params close next rest, paramList inner other tokens = some (params, close, next :: rest) ∧
      isParameter next = true := by
  -- The inner level stays below the outer one, and so it gets to zero first.
  fun_induction paramList outer passed tokens generalizing inner other with
  | case1 => cases list
  | case2 outer passed tok tail opens ih =>
    rw [paramList, if_pos opens]
    exact ih _ list (Nat.le_add_left ..) (Nat.succ_lt_succ deeper)
  | case3 outer passed tok tail notOpen closing last => omega
  | case4 outer passed tok tail notOpen closing more ih =>
    rw [paramList, if_neg notOpen, if_pos closing]
    split
    · obtain ⟨next, rest, rfl, parameter⟩ := exists_head_of_paramList list
      exact ⟨_, _, next, rest, rfl, parameter⟩
    · exact ih _ list (by omega) (by omega)
  | case5 => cases list
  | case6 outer passed tok tail notOpen notClose parameter ih =>
    rw [paramList, if_neg notOpen, if_neg notClose, if_neg parameter]
    exact ih _ list positive deeper

theorem isPunct_openBrace_of_isParameter {tok : Token} (parameter : isParameter tok = true) :
    tok.isPunct Token.openBrace = false := by
  simp only [isParameter, Bool.not_eq_true', Bool.or_eq_false_iff] at parameter
  exact parameter.1.2

/-- A parenthesis inside a parameter list begins no definition. -/
theorem ofTokens?_of_paramList {level : Nat} {passed tokens : List Token}
    {found : List Token × Token × List Token} (list : paramList level passed tokens = some found)
    (positive : 1 ≤ level) : ofTokens? tokens = none := by
  match tokens with
  | [] => rfl
  | tok :: tail =>
    cases opens : tok.isPunct "(" with
    | false => simp [ofTokens?, opens]
    | true =>
      rw [paramList, if_pos opens] at list
      obtain ⟨params, close, next, rest, inner, parameter⟩ :=
        exists_inner_paramList [] list (Nat.le_refl 1) (Nat.lt_succ_of_le positive)
      simp [ofTokens?, opens, inner, isPunct_openBrace_of_isParameter parameter]

/-- What begins inside a parameter list begins no definition. -/
theorem ofTokens?_of_suffix {level : Nat} {passed tokens suffix params rest : List Token}
    {close : Token} (list : paramList level passed tokens = some (params, close, rest))
    (positive : 1 ≤ level) (isSuffix : suffix <:+ tokens) (longer : rest.length < suffix.length) :
    ofTokens? suffix = none := by
  have whole := ofTokens?_of_paramList list positive
  fun_induction paramList level passed tokens with
  | case1 => cases list
  | case2 level passed tok tail opens ih =>
    rcases List.suffix_cons_iff.1 isSuffix with rfl | later
    · exact whole
    · exact ih list (Nat.le_add_left ..) later (ofTokens?_of_paramList list (Nat.le_add_left ..))
  | case3 level passed tok tail notOpen closing last =>
    rcases List.suffix_cons_iff.1 isSuffix with rfl | later
    · exact whole
    · obtain rfl : tail = rest := by simpa using congrArg (fun found => found.map (·.2.2)) list
      exact absurd later.length_le (Nat.not_le.2 longer)
  | case4 level passed tok tail notOpen closing more ih =>
    have positive : 1 ≤ level - 1 := by omega
    rcases List.suffix_cons_iff.1 isSuffix with rfl | later
    · exact whole
    · exact ih list positive later (ofTokens?_of_paramList list positive)
  | case5 => cases list
  | case6 level passed tok tail notOpen notClose parameter ih =>
    rcases List.suffix_cons_iff.1 isSuffix with rfl | later
    · exact whole
    · exact ih list positive later (ofTokens?_of_paramList list positive)

/-- The parameter list of a definition is read up to its own closing parenthesis. -/
theorem paramList_of_ofTokens? {definition : Definition} {rest : List Token}
    (found : ofTokens? (definition.tokens ++ rest) = some definition) :
    paramList 1 [] (definition.params ++ definition.closeParen :: definition.openBrace ::
        (definition.bodyTokens ++ rest)) =
      some (definition.params, definition.closeParen,
        definition.openBrace :: (definition.bodyTokens ++ rest)) := by
  have opens := (ofTokens?_eq_some found).1.openParen
  have parts : definition.tokens ++ rest = definition.openParen ::
      (definition.params ++ definition.closeParen :: definition.openBrace ::
        (definition.bodyTokens ++ rest)) := by
    simp [Definition.tokens, header]
  rw [parts, ofTokens?, if_pos opens] at found
  split at found
  case h_2 => cases found
  rename_i params closeParen openBrace bodyRest list
  split at found
  case isFalse => cases found
  obtain ⟨more, whole, eq, -⟩ := paramList_eq_some list
  obtain rfl : params = more := by simpa using eq
  have same := Option.some.inj found
  have sameParams : definition.params = params := congrArg Definition.params same.symm
  have sameClose : definition.closeParen = closeParen := congrArg Definition.closeParen same.symm
  have sameBrace : definition.openBrace = openBrace := congrArg Definition.openBrace same.symm
  rw [list]
  rw [sameParams, sameClose, sameBrace] at whole ⊢
  have tails := List.append_cancel_left whole
  rw [List.cons.injEq, List.cons.injEq] at tails
  rw [tails.2.2]

theorem startsDefinition_of_isName {tok : Token} {rest : List Token} (other : tok.isName = false) :
    startsDefinition (tok :: rest) = false := by
  simp [startsDefinition, other]

section Inside

variable {definition : Definition} {rest : List Token}
  (found : ofTokens? (definition.tokens ++ rest) = some definition)
include found

/-- A name in a body stands inside its braces. -/
theorem depth_pos_of_mem_inner {last : Nat} (nested : Nested 0 (definition.tokens ++ rest) last)
    (plain : ∀ tok ∈ definition.tokens, tok.directive = false) {tok : Token}
    (inBody : tok ∈ definition.inner) (isName : tok.isName = true) : 0 < tok.depth := by
  have formed := (ofTokens?_eq_some found).1
  rw [Definition.tokens, List.append_assoc, List.cons_append] at nested
  obtain ⟨middle, header, atBrace, body⟩ := Nested.append_iff.1 nested
  obtain ⟨rfl, -⟩ := header.of_not_isBrace (fun tok inside => by
    simp only [Definition.header, List.mem_cons, List.mem_append, List.not_mem_nil,
      or_false] at inside
    rcases inside with rfl | parameter | rfl
    · exact isBrace_of_isParameter (isParameter_of_isPunct formed.openParen (by decide))
    · exact isBrace_of_isParameter (formed.params tok parameter)
    · exact isBrace_of_isParameter (isParameter_of_isPunct formed.closeParen (by decide)))
  rw [Token.isClosing_of_isPunct_openBrace formed.openBrace, if_neg Bool.false_ne_true] at atBrace
  have opened : definition.openBrace.depthAfter = 1 := by
    have outside := plain definition.openBrace (by simp [Definition.tokens])
    simp [Token.depthAfter, formed.openBrace, outside, atBrace]
  rw [opened, bodyTokens, List.append_assoc] at body
  obtain ⟨_, inner, -⟩ := Nested.append_iff.1 body
  have unclosed := formed.inner
  rw [atBrace] at unclosed
  have deep := (inner.lt_depthAfter Nat.one_pos (fun tok member _ => unclosed tok member)).2
  have word : isParameter tok = true := by
    rw [Token.isName, Bool.and_eq_true] at isName
    exact isParameter_of_isIdent isName.1
  rw [← Token.depthAfter_of_not_isBrace (isBrace_of_isParameter word)]
  exact deep tok inBody

theorem startsDefinition_of_mem_body {last : Nat}
    (nested : Nested 0 (definition.tokens ++ rest) last)
    (plain : ∀ tok ∈ definition.tokens, tok.directive = false) {tok : Token}
    (inBody : tok ∈ definition.openBrace :: definition.bodyTokens) (after : List Token) :
    startsDefinition (tok :: after) = false := by
  have formed := (ofTokens?_eq_some found).1
  cases isName : tok.isName with
  | false => exact startsDefinition_of_isName isName
  | true =>
    simp only [bodyTokens, List.mem_cons, List.mem_append, Option.mem_toList] at inBody
    rcases inBody with rfl | inInner | closes
    · rw [Token.isName_of_isPunct formed.openBrace (by decide)] at isName
      cases isName
    · have deep := depth_pos_of_mem_inner found nested plain inInner isName
      have inside : (tok.depth == 0) = false := by simp; omega
      simp [startsDefinition, inside]
    · have brace := formed.closeBrace tok closes
      rw [Definition.closes, Bool.and_eq_true] at brace
      rw [Token.isName_of_isPunct brace.1 (by decide)] at isName
      cases isName

theorem startsDefinition_of_header {front back : List Token} {tok : Token}
    (split : definition.header = front ++ tok :: back) :
    startsDefinition (tok :: (back ++ definition.openBrace :: (definition.bodyTokens ++ rest))) =
      false := by
  have formed := (ofTokens?_eq_some found).1
  rw [header] at split
  cases front with
  | nil =>
    rw [List.nil_append, List.cons.injEq] at split
    rw [← split.1]
    exact startsDefinition_of_isName (Token.isName_of_isPunct formed.openParen (by decide))
  | cons head front =>
    rw [List.cons_append, List.cons.injEq] at split
    cases back with
    | nil =>
      have last := (List.append_inj' split.2 rfl).2
      rw [List.cons.injEq] at last
      rw [← last.1]
      exact startsDefinition_of_isName (Token.isName_of_isPunct formed.closeParen (by decide))
    | cons next back =>
      have list := paramList_of_ofTokens? found
      have whole : definition.params ++ definition.closeParen :: definition.openBrace ::
            (definition.bodyTokens ++ rest) =
          (front ++ [tok]) ++ (next :: back ++
            definition.openBrace :: (definition.bodyTokens ++ rest)) := by
        rw [List.append_cons, split.2]
        simp
      have notFound := ofTokens?_of_suffix list (Nat.le_refl 1) ⟨_, whole.symm⟩
        (by simp only [List.length_append, List.length_cons]; omega)
      rw [startsDefinition, notFound, Option.isSome_none, Bool.and_false]

theorem startsDefinition_inside {last : Nat} (nested : Nested 0 (definition.tokens ++ rest) last)
    (plain : ∀ tok ∈ definition.tokens, tok.directive = false) {front back : List Token}
    {tok : Token} (split : definition.tokens = front ++ tok :: back) :
    startsDefinition (tok :: (back ++ rest)) = false := by
  have inBody : tok ∈ definition.openBrace :: definition.bodyTokens →
      startsDefinition (tok :: (back ++ rest)) = false :=
    fun member => startsDefinition_of_mem_body found nested plain member _
  rw [Definition.tokens] at split
  rcases List.append_eq_append_iff.1 split with ⟨more, -, body⟩ | ⟨more, header, body⟩
  · exact inBody (body ▸ List.mem_append_right _ (List.mem_cons_self ..))
  · cases more with
    | nil =>
      rw [List.nil_append, List.cons.injEq] at body
      exact inBody (body.1 ▸ List.mem_cons_self ..)
    | cons head more =>
      rw [List.cons_append, List.cons.injEq] at body
      obtain ⟨rfl, rfl⟩ := body
      rw [List.append_assoc, List.cons_append]
      exact startsDefinition_of_header found header

end Inside

end Definition

namespace Place

/-- Whether the token at a place names a definition. -/
def isDefinition (place : Place) : Bool :=
  startsDefinition (place.here :: place.after)

def record? (place : Place) (cs : List Char) (chunkId : Nat) : Option FunctionRecord :=
  (Definition.ofTokens? place.after).map (fun definition =>
    definition.record cs place.before place.here chunkId)

end Place

theorem takeWhile_isTypeWord_pass {passed before : List Token} (tok : Token)
    (same : passed.takeWhile isTypeWord = before.takeWhile isTypeWord) :
    (tok :: passed).takeWhile isTypeWord =
      (if endsDeclaration tok then [] else tok :: before).takeWhile isTypeWord := by
  cases ends : endsDeclaration tok with
  | false => simp only [Bool.false_eq_true, if_false, List.takeWhile_cons, same]
  | true =>
    have notWord : ¬ isTypeWord tok = true := by
      intro word
      rw [endsDeclaration_of_isTypeWord word] at ends
      cases ends
    rw [if_pos rfl, List.takeWhile_cons_of_neg notWord, List.takeWhile_nil]

theorem filter_isDefinition_inside {definition : Definition} {rest : List Token} {last : Nat}
    (found : Definition.ofTokens? (definition.tokens ++ rest) = some definition)
    (nested : Nested 0 (definition.tokens ++ rest) last)
    (plain : ∀ tok ∈ definition.tokens, tok.directive = false) (before : List Token) :
    ((Place.allFrom before definition.tokens).map (fun place =>
      { place with after := place.after ++ rest })).filter Place.isDefinition = [] := by
  rw [List.filter_eq_nil_iff]
  intro later member
  obtain ⟨place, inParts, rfl⟩ := List.mem_map.1 member
  obtain ⟨front, split, -⟩ := Place.exists_front_of_mem_allFrom inParts
  rw [Place.isDefinition, Definition.startsDefinition_inside found nested plain split]
  exact Bool.false_ne_true

theorem takeWhile_isTypeWord_tokens {definition : Definition} {close : Token}
    (formed : definition.Formed) (closed : definition.closeBrace = some close)
    (before : List Token) : (definition.tokens.reverse ++ before).takeWhile isTypeWord = [] := by
  have notWord : ¬ isTypeWord close = true := by
    intro word
    have parameter := Definition.isParameter_of_isTypeWord word
    have closes := formed.closeBrace close closed
    rw [Definition.closes, Bool.and_eq_true] at closes
    simp [Definition.isParameter, closes.1] at parameter
  have ends : definition.tokens.reverse ++ before =
      close :: ((definition.header ++ definition.openBrace :: definition.inner).reverse ++
        before) := by
    simp [Definition.tokens, Definition.bodyTokens, closed]
  rw [ends, List.takeWhile_cons_of_neg notWord]

/-- The search passes all names of definitions, whatever stands before the declaration. -/
theorem Sites.map_record?_allFrom {before passed tokens : List Token} {sites : List Site}
    (search : Sites before tokens sites)
    (same : passed.takeWhile isTypeWord = before.takeWhile isTypeWord) {depth last : Nat}
    (nested : Nested depth tokens last) (plain : ∀ tok ∈ tokens, tok.directive = false)
    (cs : List Char) (chunkId : Nat) :
    ((Place.allFrom passed tokens).filter Place.isDefinition).map
        (fun place => place.record? cs chunkId) =
      sites.map (fun site => some (site.record cs chunkId)) := by
  -- What stands before may differ from what the search kept, as long as no return type differs.
  induction search generalizing passed depth with
  | done => rfl
  | @pass before rest tok sites other tail ih =>
    rw [Place.allFrom, List.filter_cons_of_neg (by simpa [Place.isDefinition] using other)]
    exact ih (takeWhile_isTypeWord_pass tok same) nested.2 (List.forall_mem_cons.1 plain).2
  | @site before name definition rest sites outside isName found tail ih =>
    obtain ⟨plainParts, plainRest⟩ := List.forall_mem_append.1 (List.forall_mem_cons.1 plain).2
    have wordName : Definition.isParameter name = true := by
      rw [Token.isName, Bool.and_eq_true] at isName
      exact Definition.isParameter_of_isIdent isName.1
    have nested := nested.2
    rw [Token.depthAfter_of_not_isBrace (Definition.isBrace_of_isParameter wordName), outside]
      at nested
    have starts : Place.isDefinition ⟨passed, name, definition.tokens ++ rest⟩ = true := by
      simp [Place.isDefinition, startsDefinition, outside, isName, found]
    have record : Place.record? ⟨passed, name, definition.tokens ++ rest⟩ cs chunkId =
        some ((Site.ofParts before name definition).record cs chunkId) := by
      rw [Place.record?, found, Option.map_some, ← Site.record_ofParts, Site.ofParts, same,
        ← Site.ofParts]
    rw [Place.allFrom, List.filter_cons_of_pos starts, Place.allFrom_append, List.filter_append,
      filter_isDefinition_inside found nested plainParts, List.nil_append, List.map_cons,
      List.map_cons, record]
    refine congrArg _ ?_
    obtain ⟨formed, ⟨left, whole, atEnd⟩, -⟩ := Definition.ofTokens?_eq_some found
    cases closed : definition.closeBrace with
    | none =>
      obtain rfl : rest = [] := (List.append_cancel_left whole).trans (atEnd closed)
      cases tail
      rfl
    | some close =>
      obtain ⟨middle, -, nestedRest⟩ := Nested.append_iff.1 nested
      exact ih (takeWhile_isTypeWord_tokens formed closed _) nestedRest plainRest

def recordAt? (cs : List Char) (tokens : List Token) (chunkId index : Nat) :
    Option FunctionRecord :=
  if definesAt tokens index then
    match tokens.drop index with
    | [] => none
    | name :: rest =>
      (Definition.ofTokens? rest).map (fun definition =>
        definition.record cs (tokens.take index).reverse name chunkId)
  else none

/-- The tokens that name definitions are the names of the records, in order. -/
theorem map_recordAt? (text : String) (chunkId : Nat) :
    ((List.range (significant (scan text)).length).filter
        (definesAt (significant (scan text)))).map
          (recordAt? text.toList (significant (scan text)) chunkId) =
      (extractFunctions text.toList (scan text) chunkId).map some := by
  obtain ⟨last, nested⟩ := nested_scan text
  obtain ⟨sites, search⟩ := Sites.exists_sites [] (significant (scan text))
  have places := search.map_record?_allFrom rfl nested.significant
    (fun _ => directive_of_mem_significant) text.toList chunkId
  rw [extractFunctions, search.definitionsFrom_eq, List.map_map, ← Place.map_position_all,
    List.filter_map, List.map_map]
  refine Eq.trans ?_ places
  have defines : ∀ place ∈ Place.all (significant (scan text)),
      definesAt (significant (scan text)) place.position = place.isDefinition := by
    intro place member
    obtain ⟨front, whole, length, -⟩ := Place.exists_front member
    rw [definesAt, whole, ← length, List.drop_left, Place.isDefinition]
  rw [List.filter_congr (p := definesAt (significant (scan text)) ∘ Place.position)
    (q := Place.isDefinition) defines]
  refine List.map_congr_left (fun place isName => ?_)
  obtain ⟨member, starts⟩ := List.mem_filter.1 isName
  obtain ⟨front, whole, length, before⟩ := Place.exists_front member
  rw [Function.comp_apply, recordAt?, defines place member, if_pos starts, Place.record?, whole,
    ← length, List.drop_left, List.take_left, before]

end CSurvey
