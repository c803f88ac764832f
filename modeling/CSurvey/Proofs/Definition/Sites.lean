import CSurvey.Proofs.Definition.Parts

/-!
# Where definitions stand

The search for definitions reads significant tokens in steps: past one token that
names no definition, or past a whole definition.  This file states the search as
a relation, proves that it yields the records of the definitions that it passes,
and cuts it in two: definitions are the same on both sides of a cut after which no
brace is open, unless the cut lies in the header of one.
-/

namespace CSurvey

/-- A definition with the tokens of its return type, in the order of the text, and its name. -/
structure Site where
  returnType : List Token
  name : Token
  definition : Definition
deriving DecidableEq, Repr

namespace Site

def tokens (site : Site) : List Token :=
  site.returnType ++ site.name :: site.definition.tokens

def first (site : Site) : Token :=
  site.returnType.headD site.name

def record (site : Site) (cs : List Char) (chunkId : Nat) : FunctionRecord :=
  site.definition.record cs site.returnType.reverse site.name chunkId

/-- The header begins on a line or before it, and the body after it. -/
def Crosses (site : Site) (line : Nat) : Prop :=
  site.first.span.line ≤ line ∧ line < site.definition.openBrace.span.line

/-- The site of a name after the tokens `before` of its declaration, nearest first. -/
def ofParts (before : List Token) (name : Token) (definition : Definition) : Site :=
  ⟨(before.takeWhile isTypeWord).reverse, name, definition⟩

/-- The tokens of a definition before its body. -/
def headerTokens (site : Site) : List Token :=
  site.returnType ++ site.name :: site.definition.header

theorem tokens_eq (site : Site) :
    site.tokens = site.headerTokens ++ site.definition.openBrace :: site.definition.bodyTokens := by
  simp [tokens, headerTokens, Definition.tokens]

theorem headerTokens_eq (site : Site) : ∃ rest, site.headerTokens = site.first :: rest := by
  cases returnType : site.returnType with
  | nil => exact ⟨site.definition.header, by simp [headerTokens, first, returnType]⟩
  | cons head rest =>
    exact ⟨rest ++ site.name :: site.definition.header, by simp [headerTokens, first, returnType]⟩

theorem first_ofParts (before : List Token) (name : Token) (definition : Definition) :
    (ofParts before name definition).first = (before.takeWhile isTypeWord).getLastD name := by
  simp [first, ofParts]

theorem record_ofParts (before : List Token) (name : Token) (definition : Definition)
    (cs : List Char) (chunkId : Nat) :
    (ofParts before name definition).record cs chunkId =
      definition.record cs before name chunkId := by
  simp only [record, ofParts, List.reverse_reverse, Definition.record, List.takeWhile_idem]

theorem first_ofParts_mem (before : List Token) (name : Token) (definition : Definition) :
    (ofParts before name definition).first ∈ name :: before := by
  rw [first_ofParts, List.getLastD_eq_getLast?]
  cases last : (before.takeWhile isTypeWord).getLast? with
  | none => exact List.mem_cons_self ..
  | some tok =>
    have inside := List.mem_of_getLast? last
    exact List.mem_cons_of_mem _ ((List.takeWhile_prefix _).subset inside)

/-- Tokens further before a name belong to its return type only if they hold its first token. -/
theorem ofParts_append {front before passed : List Token} {name : Token} {definition : Definition}
    (apart : ∀ tok ∈ before, (ofParts passed name definition).first ≠ tok)
    (eq : passed = front ++ before) :
    ofParts passed name definition = ofParts front name definition := by
  subst eq
  by_cases all : ∀ tok ∈ front, isTypeWord tok = true
  · cases more : before.takeWhile isTypeWord with
    | nil =>
      rw [ofParts, List.takeWhile_append_of_pos all, more, List.append_nil, ofParts,
        List.takeWhile_eq_self_iff.2 all]
    | cons tok rest =>
      have nonempty : before.takeWhile isTypeWord ≠ [] := by simp [more]
      have last := List.getLast_mem nonempty
      refine absurd ?_ (apart _ ((List.takeWhile_prefix _).subset last))
      rw [first_ofParts, List.takeWhile_append_of_pos all, List.getLastD_eq_getLast?,
        List.getLast?_append, List.getLast?_eq_some_getLast nonempty, Option.some_or,
        Option.getD_some]
  · have shorter : ¬ (front.takeWhile isTypeWord).length = front.length := by
      intro same
      exact all (List.takeWhile_eq_self_iff.1
        ((List.takeWhile_prefix _).eq_of_length same))
    rw [ofParts, List.takeWhile_append, if_neg shorter, ofParts]

/-- Each part of a site is what its name says. -/
structure Formed (site : Site) : Prop where
  typed : ∀ tok ∈ site.returnType, isTypeWord tok = true
  outside : site.name.depth = 0
  isName : site.name.isName = true
  found : Definition.ofTokens? site.definition.tokens = some site.definition

namespace Formed

variable {site : Site}

theorem definition (formed : site.Formed) : site.definition.Formed :=
  (Definition.ofTokens?_eq_some formed.found).1

theorem isTypeWord_name (formed : site.Formed) : isTypeWord site.name = true := by
  have named := formed.isName
  rw [Token.isName, Bool.and_eq_true] at named
  rw [isTypeWord, named.1, Bool.true_or]

theorem isTypeWord_first (formed : site.Formed) : isTypeWord site.first = true := by
  cases returnType : site.returnType with
  | nil => simpa [first, returnType] using formed.isTypeWord_name
  | cons head rest => simpa [first, returnType] using formed.typed head (by simp [returnType])

/-- A header has no semicolon and no brace. -/
theorem isParameter_of_mem_headerTokens (formed : site.Formed) {tok : Token}
    (inside : tok ∈ site.headerTokens) : Definition.isParameter tok = true := by
  simp only [headerTokens, Definition.header, List.mem_append, List.mem_cons, List.not_mem_nil,
    or_false] at inside
  rcases inside with type | rfl | rfl | parameter | rfl
  · exact Definition.isParameter_of_isTypeWord (formed.typed tok type)
  · exact Definition.isParameter_of_isTypeWord formed.isTypeWord_name
  · exact Definition.isParameter_of_isPunct formed.definition.openParen (by decide)
  · exact formed.definition.params tok parameter
  · exact Definition.isParameter_of_isPunct formed.definition.closeParen (by decide)

theorem depth_eq_zero (formed : site.Formed) {depth last : Nat} {front back : List Token}
    (nested : Nested depth (front ++ (site.tokens ++ back)) last) :
    (∀ tok ∈ site.headerTokens, tok.depth = 0) ∧ site.definition.openBrace.depth = 0 := by
  rw [tokens_eq, List.append_assoc, List.cons_append] at nested
  obtain ⟨middle, -, nested⟩ := Nested.append_iff.1 nested
  obtain ⟨after, header, body⟩ := Nested.append_iff.1 nested
  obtain ⟨rfl, depths⟩ := header.of_not_isBrace (fun tok inside =>
    Definition.isBrace_of_isParameter (formed.isParameter_of_mem_headerTokens inside))
  obtain rfl : middle = 0 :=
    (depths site.name (by simp [headerTokens])).symm.trans formed.outside
  refine ⟨depths, ?_⟩
  have depth := body.1
  rwa [Token.isClosing_of_isPunct_openBrace formed.definition.openBrace,
    if_neg Bool.false_ne_true] at depth

end Formed

theorem Formed.record_begins {site : Site} (formed : site.Formed) (cs : List Char)
    (chunkId : Nat) :
    (site.record cs chunkId).span.start = site.first.span.start ∧
      (site.record cs chunkId).span.line = site.first.span.line := by
  have all : site.returnType.reverse.takeWhile isTypeWord = site.returnType.reverse :=
    List.takeWhile_eq_self_iff.2 (by simpa using formed.typed)
  simp only [record, Definition.record, all, first]
  rw [List.getLastD_eq_getLast?, List.getLast?_reverse, List.headD_eq_head?_getD]
  exact ⟨rfl, rfl⟩

end Site

theorem endsDeclaration_of_isTypeWord {tok : Token} (word : isTypeWord tok = true) :
    endsDeclaration tok = false := by
  have parameter := Definition.isParameter_of_isTypeWord word
  simp only [Definition.isParameter, Bool.not_eq_true', Bool.or_eq_false_iff] at parameter
  simp [endsDeclaration, parameter]

namespace Definition

/-- A definition is closed if no brace is open after the tokens among which it stands. -/
theorem closeBrace_ne_none {tokens : List Token} {definition : Definition} {depth : Nat}
    (found : ofTokens? tokens = some definition) (nested : Nested depth tokens 0)
    (plain : ∀ tok ∈ tokens, tok.directive = false) : definition.closeBrace ≠ none := by
  intro unclosed
  obtain ⟨formed, ⟨rest, rfl, atEnd⟩, -⟩ := ofTokens?_eq_some found
  rw [atEnd unclosed, List.append_nil, Definition.tokens, bodyTokens, unclosed,
    Option.toList_none, List.append_nil] at nested
  obtain ⟨before, -, -, inside⟩ := Nested.append_iff.1 nested
  have opening : definition.openBrace.depthAfter = definition.openBrace.depth + 1 := by
    have outside := plain definition.openBrace (by simp [Definition.tokens])
    simp [Token.depthAfter, formed.openBrace, outside]
  rw [opening] at inside
  exact Nat.not_lt_zero _ (inside.lt_last (Nat.lt_succ_self _) formed.inner)

/-- More tokens after a closed definition change nothing about it. -/
theorem ofTokens?_append {front : List Token} {definition : Definition}
    (found : ofTokens? front = some definition) (closed : definition.closeBrace ≠ none)
    (back : List Token) : ofTokens? (front ++ back) = some definition := by
  obtain ⟨-, ⟨rest, rfl, -⟩, -⟩ := ofTokens?_eq_some found
  rw [List.append_assoc]
  exact ofTokens?_tokens found (fun unclosed => absurd unclosed closed)

/-- What names no definition does not name one before fewer tokens, if these close their braces. -/
theorem startsDefinition_of_append {front back : List Token} {tok : Token} {depth : Nat}
    (nested : Nested depth (tok :: front) 0) (plain : ∀ tok ∈ front, tok.directive = false)
    (other : startsDefinition (tok :: (front ++ back)) = false) :
    startsDefinition (tok :: front) = false := by
  cases found : ofTokens? front with
  | none => simp [startsDefinition, found]
  | some definition =>
    have again := ofTokens?_append found (closeBrace_ne_none found nested.2 plain) back
    simp only [startsDefinition, again, found, Option.isSome_some] at other ⊢
    exact other

end Definition

/-- The search for definitions among tokens, when the tokens `before` of a declaration precede
them, nearest first. -/
inductive Sites : List Token → List Token → List Site → Prop
  | done (before : List Token) : Sites before [] []
  | site (before : List Token) {name : Token} {definition : Definition} {rest : List Token}
      {sites : List Site} (outside : name.depth = 0) (isName : name.isName = true)
      (found : Definition.ofTokens? (definition.tokens ++ rest) = some definition)
      (tail : Sites [] rest sites) :
      Sites before (name :: (definition.tokens ++ rest))
        (Site.ofParts before name definition :: sites)
  | pass {before rest : List Token} {tok : Token} {sites : List Site}
      (other : startsDefinition (tok :: rest) = false)
      (tail : Sites (if endsDeclaration tok then [] else tok :: before) rest sites) :
      Sites before (tok :: rest) sites

theorem definitionsFrom_drop (cs : List Char) (chunkId : Nat) (before : List Token) (skip : Nat)
    (tokens : List Token) :
    definitionsFrom cs chunkId before skip tokens =
      definitionsFrom cs chunkId before 0 (tokens.drop skip) := by
  induction tokens generalizing skip with
  | nil => simp [definitionsFrom]
  | cons tok rest ih =>
    cases skip with
    | zero => rfl
    | succ skip => simpa only [definitionsFrom, List.drop_succ_cons] using ih skip

namespace Sites

variable {before tokens front back : List Token} {sites : List Site}

theorem definitionsFrom_eq (search : Sites before tokens sites) (cs : List Char)
    (chunkId : Nat) :
    definitionsFrom cs chunkId before 0 tokens =
      sites.map (fun site => site.record cs chunkId) := by
  induction search with
  | done => rfl
  | site before outside isName found tail ih =>
    rename_i name definition rest sites
    have condition : (name.depth == 0 && name.isName) = true := by simp [outside, isName]
    rw [definitionsFrom]
    simp only [condition, if_true, found]
    rw [definitionsFrom_drop, ← definition.length_tokens, List.drop_left, ih, List.map_cons,
      Site.record_ofParts]
  | pass other tail ih =>
    rename_i before rest tok sites
    have notFound : (if (tok.depth == 0 && tok.isName) = true then Definition.ofTokens? rest
        else none) = none := by
      split
      · rename_i condition
        simpa [startsDefinition, condition] using other
      · rfl
    rw [definitionsFrom]
    simp only [notFound]
    exact ih

/-- Every list of tokens can be searched. -/
theorem exists_sites (before tokens : List Token) : ∃ sites, Sites before tokens sites := by
  match tokens with
  | [] => exact ⟨[], .done before⟩
  | tok :: rest =>
    cases starts : startsDefinition (tok :: rest) with
    | false =>
      obtain ⟨sites, tail⟩ := exists_sites (if endsDeclaration tok then [] else tok :: before) rest
      exact ⟨sites, .pass starts tail⟩
    | true =>
      simp only [startsDefinition, Bool.and_eq_true, beq_iff_eq, Option.isSome_iff_exists]
        at starts
      obtain ⟨⟨outside, isName⟩, definition, found⟩ := starts
      obtain ⟨-, ⟨left, eq, -⟩, -⟩ := Definition.ofTokens?_eq_some found
      have shorter : left.length < (tok :: rest).length := by
        rw [eq, List.length_cons, List.length_append]
        omega
      obtain ⟨sites, tail⟩ := exists_sites [] left
      rw [eq] at found ⊢
      exact ⟨_, .site before outside isName found tail⟩
termination_by tokens.length

theorem exists_parts (search : Sites before tokens sites) {site : Site} (member : site ∈ sites) :
    site.Formed ∧ ∃ front back, before.reverse ++ tokens = front ++ (site.tokens ++ back) ∧
      (site.definition.closeBrace = none → back = []) := by
  induction search with
  | done => simp at member
  | @site before name definition rest sites outside isName found tail ih =>
    rcases List.mem_cons.1 member with rfl | later
    · obtain ⟨-, ⟨left, whole, atEnd⟩, -⟩ := Definition.ofTokens?_eq_some found
      obtain rfl := List.append_cancel_left whole
      have parts := congrArg List.reverse
        (List.takeWhile_append_dropWhile (p := isTypeWord) (l := before))
      rw [List.reverse_append] at parts
      have again : Definition.ofTokens? (definition.tokens ++ []) = some definition :=
        Definition.ofTokens?_tokens found (fun _ => rfl)
      rw [List.append_nil] at again
      refine ⟨⟨fun tok inside => ?_, outside, isName, again⟩,
        (before.dropWhile isTypeWord).reverse, rest, ?_, atEnd⟩
      · exact List.mem_takeWhile_imp (by simpa [Site.ofParts] using inside)
      · rw [← parts]
        simp [Site.tokens, Site.ofParts]
    · obtain ⟨formed, front, back, eq, atEnd⟩ := ih later
      rw [List.reverse_nil, List.nil_append] at eq
      exact ⟨formed, before.reverse ++ name :: definition.tokens ++ front, back, by simp [eq],
        atEnd⟩
  | @pass before rest tok sites other tail ih =>
    obtain ⟨formed, front, back, eq, atEnd⟩ := ih member
    refine ⟨formed, ?_⟩
    cases ends : endsDeclaration tok with
    | true =>
      simp only [ends, if_true, List.reverse_nil, List.nil_append] at eq
      exact ⟨before.reverse ++ tok :: front, back, by simp [eq], atEnd⟩
    | false =>
      simp only [ends, Bool.false_eq_true, if_false] at eq
      exact ⟨front, back, by simpa using eq, atEnd⟩

theorem formed (search : Sites before tokens sites) {site : Site} (member : site ∈ sites) :
    site.Formed :=
  (search.exists_parts member).1

/-- Where a definition stands among the tokens in which it is found. -/
theorem exists_context (search : Sites [] tokens sites) {site : Site} (member : site ∈ sites) :
    ∃ front back, tokens = front ++ (site.tokens ++ back) ∧
      (site.definition.closeBrace = none → back = []) :=
  (search.exists_parts member).2

/-- Tokens of an earlier line that precede the search make a difference only to a definition
whose header crosses that line. -/
theorem forget {line : Nat} (search : Sites (front ++ before) tokens sites)
    (early : ∀ tok ∈ before, tok.span.line ≤ line) (late : ∀ tok ∈ tokens, line < tok.span.line)
    (apart : ∀ site ∈ sites, ¬ site.Crosses line) : Sites front tokens sites := by
  generalize eq : front ++ before = passed at search
  induction search generalizing front before with
  | done => exact .done front
  | @site passed name definition rest sites outside isName found tail ih =>
    have same : Site.ofParts passed name definition = Site.ofParts front name definition := by
      refine Site.ofParts_append ?_ eq.symm
      intro tok inBefore first
      refine apart _ (List.mem_cons_self ..) ⟨?_, ?_⟩
      · rw [first]
        exact early tok inBefore
      · exact late _ (by simp [Site.ofParts, Definition.tokens])
    rw [same]
    exact .site front outside isName found tail
  | @pass passed rest tok sites other tail ih =>
    refine .pass other ?_
    have lateRest := (List.forall_mem_cons.1 late).2
    cases ends : endsDeclaration tok with
    | true => exact @ih [] _ (by simp) lateRest apart (by simp [ends])
    | false => exact ih early lateRest apart (by simp [ends, ← eq])

/-- A cut after which no brace is open and which no header crosses cuts the search. -/
theorem split {depth line : Nat} (search : Sites before (front ++ back) sites)
    (nested : Nested depth front 0) (plain : ∀ tok ∈ front, tok.directive = false)
    (earlyBefore : ∀ tok ∈ before, tok.span.line ≤ line)
    (early : ∀ tok ∈ front, tok.span.line ≤ line) (late : ∀ tok ∈ back, line < tok.span.line)
    (apart : ∀ site ∈ sites, ¬ site.Crosses line) :
    ∃ first second, sites = first ++ second ∧ Sites before front first ∧ Sites [] back second := by
  generalize eq : front ++ back = tokens at search
  induction search generalizing front depth with
  | done passed =>
    obtain ⟨rfl, rfl⟩ := List.append_eq_nil_iff.1 eq
    exact ⟨[], [], rfl, .done passed, .done []⟩
  | @site passed name definition rest sites outside isName found tail ih =>
    cases front with
    | nil =>
      rw [List.nil_append] at eq
      subst eq
      have whole := Sites.site passed outside isName found tail
      exact ⟨[], _, rfl, .done passed, forget whole earlyBefore late apart⟩
    | cons tok front =>
      rw [List.cons_append, List.cons.injEq] at eq
      obtain ⟨rfl, eq⟩ := eq
      cases inFront : Definition.ofTokens? front with
      | none =>
        rw [← eq] at found
        have inBack := Definition.openBrace_mem_of_append inFront found
        refine absurd ⟨?_, late _ inBack⟩ (apart _ (List.mem_cons_self ..))
        rcases List.mem_cons.1 (Site.first_ofParts_mem passed tok definition) with same | inPassed
        · rw [same]
          exact early tok (List.mem_cons_self ..)
        · exact earlyBefore _ inPassed
      | some other =>
        have closed := Definition.closeBrace_ne_none inFront nested.2
          (fun tok member => plain tok (List.mem_cons_of_mem _ member))
        have again := Definition.ofTokens?_append inFront closed back
        rw [eq, found] at again
        obtain rfl := Option.some.inj again
        obtain ⟨-, ⟨left, whole, -⟩, -⟩ := Definition.ofTokens?_eq_some inFront
        subst whole
        rw [List.append_assoc] at eq
        have eq := List.append_cancel_left eq
        obtain ⟨middle, -, nestedLeft⟩ := Nested.append_iff.1 nested.2
        obtain ⟨first, second, rfl, inFirst, inSecond⟩ := ih nestedLeft
          (fun tok member => plain tok (by simp [member])) (by simp)
          (fun tok member => early tok (by simp [member]))
          (fun site member => apart site (List.mem_cons_of_mem _ member)) eq
        exact ⟨_, second, List.cons_append.symm, .site passed outside isName inFront inFirst,
          inSecond⟩
  | @pass passed rest tok sites other tail ih =>
    cases front with
    | nil =>
      rw [List.nil_append] at eq
      subst eq
      exact ⟨[], sites, rfl, .done passed,
        forget (.pass other tail) earlyBefore late apart⟩
    | cons head front =>
      rw [List.cons_append, List.cons.injEq] at eq
      obtain ⟨rfl, eq⟩ := eq
      have ⟨earlyHead, earlyFront⟩ := List.forall_mem_cons.1 early
      have plainFront := (List.forall_mem_cons.1 plain).2
      have earlyPassed : ∀ tok ∈ (if endsDeclaration head then [] else head :: passed),
          tok.span.line ≤ line := by
        split
        · simp
        · exact List.forall_mem_cons.2 ⟨earlyHead, earlyBefore⟩
      obtain ⟨first, second, rfl, inFirst, inSecond⟩ :=
        ih nested.2 plainFront earlyPassed earlyFront apart eq
      rw [← eq] at other
      exact ⟨first, second, rfl,
        .pass (Definition.startsDefinition_of_append nested plainFront other) inFirst, inSecond⟩

end Sites

end CSurvey
