import CSurvey.Proofs.Search.Definitions
import CSurvey.Proofs.Search.Occurrences
import CSurvey.Proofs.Token.Place

/-!
# Searches for a name

A name can be looked for among the names of a text, or wherever its characters
stand.  The two searches go different ways, one over the tokens and one over the
characters, and they agree: what the second finds that is a whole token and a name
is what the first finds.
-/

namespace CSurvey

/-- Whether a span covers exactly the bytes of one of the tokens. -/
def Span.isToken (tokens : List Token) (span : Span) : Bool :=
  tokens.any (fun tok => tok.span.start == span.start && tok.span.stop == span.stop)

/-- Whether a place is one of a word, before a parenthesis or not. -/
def Place.isUse (word : String) (calls : Bool) (place : Place) : Bool :=
  place.here.text == word && Token.punctAt place.next "(" == calls

theorem Place.mem_all {tokens front back : List Token} {tok : Token}
    (whole : tokens = front ++ tok :: back) : ⟨front.reverse, tok, back⟩ ∈ all tokens := by
  rw [whole, all, allFrom_append, List.append_nil]
  exact List.mem_append_cons_self

namespace Search

theorem eq_of_pairwise_start {first second : List SearchMatch}
    (firstSorted : first.Pairwise (fun hit other => hit.span.start < other.span.start))
    (secondSorted : second.Pairwise (fun hit other => hit.span.start < other.span.start))
    (same : ∀ hit, hit ∈ first ↔ hit ∈ second) : first = second := by
  have distinct {hits : List SearchMatch}
      (sorted : hits.Pairwise (fun hit other => hit.span.start < other.span.start)) :
      hits.Nodup := by
    refine sorted.imp ?_
    rintro hit _ less rfl
    exact Nat.lt_irrefl _ less
  have perm : first.Perm second :=
    (List.perm_ext_iff_of_nodup (distinct firstSorted) (distinct secondSorted)).2 same
  refine List.Perm.eq_of_pairwise ?_ firstSorted secondSorted perm
  intro hit other _ _ less greater
  omega

namespace Field

def nameHit (field : Field) (calls : Bool) (place : Place) : SearchMatch :=
  { span := place.here.span
    matchedText := place.here.text
    kind := if calls then .function else .variableName
    isDefinition := calls && startsDefinition (place.here :: place.after)
    context := field.context place.here.span.line }

section Names

variable {word : String} (identifier : isIdentifier word = true) (free : isReserved word = false)
include identifier free

theorem isName_eq_isCode {tok : Token} (text : tok.text = word) :
    tok.isName = tok.isCode := by
  rw [Token.isName, Token.isIdent, text, identifier, free, Bool.and_true, Bool.not_false,
    Bool.and_true]

theorem names_exact (field : Field) (calls : Bool) (before : List Token) {tokens : List Token}
    (code : ∀ tok ∈ tokens, tok.text = word → tok.isCode = true) :
    field.names (.exact word.toList) calls tokens =
      ((Place.allFrom before tokens).filter (Place.isUse word calls)).map
        (field.nameHit calls) := by
  induction tokens generalizing before with
  | nil => rfl
  | cons tok rest ih =>
    have later := ih (tok :: before)
      (fun other member => code other (List.mem_cons_of_mem _ member))
    by_cases text : tok.text = word
    · have name : tok.isName = true := by
        rw [isName_eq_isCode identifier free text]
        exact code tok (List.mem_cons_self ..) text
      cases follows : Token.punctAt rest.head? "(" == calls with
      | true =>
        simp [names, Place.allFrom, later, name, text, follows, Matcher.matchesName, Place.isUse,
          Place.next, nameHit]
      | false =>
        simp [names, Place.allFrom, later, name, text, follows, Matcher.matchesName, Place.isUse,
          Place.next]
    · have other : (word.toList == tok.text.toList) = false := by
        simpa [String.toList_inj] using fun same => text same.symm
      simp [names, Place.allFrom, later, text, other, Matcher.matchesName, Place.isUse]

end Names

theorem text_of_bytes {text : String} {tok : Token} (member : tok ∈ scan text)
    {front part back : List Char} (chars : text.toList = front ++ (part ++ back))
    (starts : tok.span.start = Text.byteLength front)
    (stops : tok.span.stop = Text.byteLength front + Text.byteLength part) :
    tok.text = String.ofList part := by
  obtain ⟨passed, own, rest, eq, spelled, -, span⟩ := (layout_scan text).exists_part member
  have begins : Text.byteLength passed = Text.byteLength front := by rw [← starts, span]; rfl
  have ends : Text.byteLength (passed ++ own) = Text.byteLength (front ++ part) := by
    rw [Text.byteLength_append front, ← stops, span]
    rfl
  have here := Text.slice_of_append front part back chars
  have there := Text.slice_of_append passed own rest eq
  rw [begins, ends, here] at there
  rw [spelled, there]

section Whole

variable {source : Source} {word : String} {tok : Token} (identifier : isIdentifier word = true)
  (member : tok ∈ scan source.text) (text : tok.text = word)
include identifier member text

theorem isCode_of_text : tok.isCode = true :=
  (exists_word_of_mem_scan member (text ▸ identifier)).1

/-- Where a word stands as a token, a search of the whole text finds it. -/
theorem mem_located_of_token :
    (tok.span.start, word.toList) ∈
      located 0 (Matcher.exactHits word.toList [] 0 source.chars) := by
  obtain ⟨-, front, back, chars, span, parted⟩ :=
    exists_word_of_mem_scan member (text ▸ identifier)
  rw [text] at chars span
  have nonempty := Lexeme.toList_ne_nil_of_isIdentifier identifier
  have occurrences := occurrences_exactHits nonempty 0 [] source.chars
  rw [Source.chars, chars] at occurrences
  have found := occurrences.mem_of_getLast? nonempty (fun c isLast inWord => ?_)
  · rw [Source.chars, chars, span, Span.cover]
    simpa using found
  · have isWord := Lexeme.isWordChar_of_isIdentRest (Lexeme.isIdentRest_of_mem identifier inWord)
    cases isWord.symm.trans (parted c isLast)

theorem hit_of_token (kind : MatchKind) (isDefinition : Bool) :
    (ofSource source).hit tok.span.start word.toList kind isDefinition =
      ⟨tok.span, word, kind, isDefinition, (ofSource source).context tok.span.line⟩ := by
  obtain ⟨-, front, back, chars, span, -⟩ := exists_word_of_mem_scan member (text ▸ identifier)
  rw [text] at chars span
  have nonempty := Lexeme.toList_ne_nil_of_isIdentifier identifier
  have noFeed := Lexeme.newline_not_mem_of_isIdentifier identifier
  have lines : (ofSource source).lines = LineIndex.ofChars (front ++ (word.toList ++ back)) := by
    rw [← chars]
    rfl
  have begins : (ofSource source).lines.lineOf (Text.byteLength front) = 1 + front.count '\n' := by
    rw [lines]
    exact LineIndex.lineOf_byteLength front (by simp [nonempty])
  have ends : (ofSource source).lines.lineOf
      (Text.byteLength front + Text.byteLength word.toList - 1) = 1 + front.count '\n' := by
    rw [lines]
    exact LineIndex.lineOf_last front back nonempty noFeed
      (fun c inWord => Lexeme.utf8Size_of_isIdentRest (Lexeme.isIdentRest_of_mem identifier inWord))
  have covers : tok.span = ⟨Text.byteLength front, Text.byteLength front +
      Text.byteLength word.toList, 1 + front.count '\n', 1 + front.count '\n'⟩ := by
    rw [span, Span.cover, Text.byteLength_append, List.count_append,
      List.count_eq_zero_of_not_mem noFeed, Nat.add_zero]
  simp only [hit, covers, begins, ends, String.ofList_toList]

theorem classify_of_token {before after : List Token}
    (whole : scan source.text = before ++ tok :: after) (free : isReserved word = false) :
    (ofSource source).classify tok.span.start =
      if tok.directive then (.code, false)
      else if Token.punctAt (CSurvey.significant after).head? "(" then
        (.function, startsDefinition (tok :: CSurvey.significant after))
      else (.variableName, false) := by
  have code := isCode_of_text identifier member text
  have name : tok.isName = true := (isName_eq_isCode identifier free text).trans code
  have kind : tok.kind = .code := beq_iff_eq.1 code
  have literal : tok.kind.isLiteral = false := by rw [kind]; rfl
  have comment : tok.kind.isComment = false := by rw [kind]; rfl
  rw [classify_eq whole (Nat.le_refl _) (start_lt_stop_of_mem_scan member), literal, comment, name]
  cases tok.directive <;> simp

end Whole

section Agreement

variable {source : Source} {word : String} (identifier : isIdentifier word = true)
include identifier

theorem names_eq (free : isReserved word = false) (calls : Bool) :
    (ofSource source).names (.exact word.toList) calls (CSurvey.significant (scan source.text)) =
      ((Place.all (CSurvey.significant (scan source.text))).filter (Place.isUse word calls)).map
        ((ofSource source).nameHit calls) :=
  names_exact identifier free _ calls [] (fun _ member =>
    isCode_of_text identifier (mem_significant.1 member).1)

theorem mem_anywhere_iff {hit : SearchMatch} :
    (hit ∈ (ofSource source).anywhere (.exact word.toList) ∧
        hit.span.isToken (scan source.text) = true) ↔
      ∃ tok ∈ scan source.text, tok.text = word ∧
        hit = ⟨tok.span, word, ((ofSource source).classify tok.span.start).1,
          ((ofSource source).classify tok.span.start).2,
          (ofSource source).context tok.span.line⟩ := by
  have nonempty := Lexeme.toList_ne_nil_of_isIdentifier identifier
  constructor
  · rintro ⟨member, isToken⟩
    obtain ⟨⟨start, part⟩, located, rfl⟩ := List.mem_map.1 member
    obtain ⟨rfl, front, back, chars, begins⟩ :=
      (occurrences_exactHits nonempty 0 [] source.chars).exists_front located
    rw [Text.byteLength_nil, Nat.zero_add] at begins
    obtain ⟨tok, inText, same⟩ := List.any_eq_true.1 isToken
    simp only [hit, Bool.and_eq_true, beq_iff_eq] at same
    have text : tok.text = word := by
      rw [text_of_bytes inText chars (same.1.trans begins) (by rw [same.2, begins]),
        String.ofList_toList]
    refine ⟨tok, inText, text, ?_⟩
    rw [← same.1]
    exact hit_of_token identifier inText text _ _
  · rintro ⟨tok, inText, text, rfl⟩
    constructor
    · refine List.mem_map.2 ⟨_, mem_located_of_token identifier inText text, ?_⟩
      exact hit_of_token identifier inText text _ _
    · exact List.any_eq_true.2 ⟨tok, inText, by simp⟩

theorem mem_names_iff (free : isReserved word = false) {calls : Bool} {hit : SearchMatch} :
    hit ∈ (ofSource source).names (.exact word.toList) calls
        (CSurvey.significant (scan source.text)) ↔
      ∃ before tok after, scan source.text = before ++ tok :: after ∧ tok.text = word ∧
        tok.directive = false ∧ Token.punctAt (CSurvey.significant after).head? "(" = calls ∧
        hit = ⟨tok.span, word, if calls then .function else .variableName,
          calls && startsDefinition (tok :: CSurvey.significant after),
          (ofSource source).context tok.span.line⟩ := by
  rw [names_eq identifier free, List.mem_map]
  constructor
  · rintro ⟨⟨back, tok, ahead⟩, member, rfl⟩
    obtain ⟨inText, use⟩ := List.mem_filter.1 member
    obtain ⟨before, after, whole, -, keeps, rfl⟩ :=
      exists_of_significant_eq (Place.tokens_of_mem_all inText).symm
    simp only [Place.isUse, Bool.and_eq_true, beq_iff_eq] at use
    simp only [Token.isSignificant, Bool.and_eq_true, Bool.not_eq_true'] at keeps
    exact ⟨before, tok, after, whole, use.1, keeps.2, use.2, by rw [nameHit, use.1]⟩
  · rintro ⟨before, tok, after, whole, text, outside, follows, rfl⟩
    have inText : tok ∈ scan source.text := whole ▸ List.mem_append_cons_self
    have kind : tok.kind = .code := beq_iff_eq.1 (isCode_of_text identifier inText text)
    have keeps : tok.isSignificant = true := by
      simp [Token.isSignificant, Token.isComment, kind, TokenKind.isComment, outside]
    have split := significant_of_isSignificant before after keeps
    rw [← whole] at split
    refine ⟨_, List.mem_filter.2 ⟨Place.mem_all split, ?_⟩, by rw [nameHit, text]⟩
    simp [Place.isUse, text, Place.next, follows]

/-- The names that a typed search finds are the hits of a search of the whole text that are such
names and whole tokens. -/
theorem filter_anywhere (free : isReserved word = false) (calls : Bool) :
    ((ofSource source).anywhere (.exact word.toList)).filter (fun hit =>
        hit.kind == (if calls then .function else .variableName) &&
          hit.span.isToken (scan source.text)) =
      (ofSource source).names (.exact word.toList) calls
        (CSurvey.significant (scan source.text)) := by
  have nonempty := Lexeme.toList_ne_nil_of_isIdentifier identifier
  apply eq_of_pairwise_start
  · refine List.Pairwise.filter _ (List.pairwise_map.2 ?_)
    exact (occurrences_exactHits nonempty 0 [] source.chars).pairwise_start nonempty
  · have inOrder : ((Place.all (CSurvey.significant (scan source.text))).map Place.here).Pairwise
        (fun first second => first.span.start < second.span.start) := by
      rw [Place.map_here_all]
      exact (pairwise_start_scan source.text).filter _
    rw [names_eq identifier free]
    exact List.pairwise_map.2 ((List.pairwise_map.1 inOrder).filter _)
  · intro hit
    rw [List.mem_filter, Bool.and_eq_true, beq_iff_eq, and_left_comm, mem_anywhere_iff identifier,
      mem_names_iff identifier free]
    constructor
    · rintro ⟨kind, tok, inText, text, rfl⟩
      obtain ⟨before, after, whole⟩ := List.append_of_mem inText
      have found := classify_of_token identifier inText text whole free
      rw [found] at kind ⊢
      cases outside : tok.directive with
      | true => cases calls <;> simp [outside] at kind
      | false =>
        refine ⟨before, tok, after, whole, text, outside, ?_⟩
        cases follows : Token.punctAt (CSurvey.significant after).head? "(" <;> cases calls <;>
          simp_all
    · rintro ⟨before, tok, after, whole, text, outside, follows, rfl⟩
      have inText : tok ∈ scan source.text := whole ▸ List.mem_append_cons_self
      refine ⟨rfl, tok, inText, text, ?_⟩
      rw [classify_of_token identifier inText text whole free, outside, follows]
      cases calls <;> rfl

end Agreement

end Field

end Search

section Literal

variable (compile : PatternCompiler) (source : Source) {word : String}
  (identifier : isIdentifier word = true)
include identifier

theorem search_literal (kind : SearchKind) :
    search compile source ⟨word, kind, true⟩ =
      .ok ((Search.Field.ofSource source).run (.exact word.toList) kind) := by
  have nonempty : word.isEmpty = false := by
    rw [String.isEmpty_eq_false_iff, ne_eq, ← String.toList_eq_nil_iff]
    exact Lexeme.toList_ne_nil_of_isIdentifier identifier
  simp only [search, SearchQuery.matcher, nonempty, if_true, Bool.false_eq_true, if_false]
  rfl

variable (free : isReserved word = false)
include free

theorem map_names (calls : Bool) :
    ((Search.Field.ofSource source).names (.exact word.toList) calls
        (significant (scan source.text))).map (fun hit => (hit.span, hit.matchedText)) =
      ((Place.all (significant (scan source.text))).filter (Place.isUse word calls)).map
        (fun place => (place.here.span, word)) := by
  rw [Search.Field.names_eq identifier free, List.map_map]
  refine List.map_congr_left (fun place member => ?_)
  have use := (List.mem_filter.1 member).2
  simp only [Place.isUse, Bool.and_eq_true, beq_iff_eq] at use
  rw [Function.comp_apply, Search.Field.nameHit, use.1]

/-- A literal search for functions finds the significant tokens that are the word and stand before
a parenthesis, one for variables the others, and of the hits anywhere those that are called
functions or variables and are whole tokens are exactly these. -/
theorem literal_searches_agree :
    ∃ functions variableNames anywhere,
      search compile source ⟨word, .function, true⟩ = .ok functions ∧
      search compile source ⟨word, .variableName, true⟩ = .ok variableNames ∧
      search compile source ⟨word, .any, true⟩ = .ok anywhere ∧
      functions.map (fun hit => (hit.span, hit.matchedText)) =
        ((Place.all (significant (scan source.text))).filter (Place.isUse word true)).map
          (fun place => (place.here.span, word)) ∧
      variableNames.map (fun hit => (hit.span, hit.matchedText)) =
        ((Place.all (significant (scan source.text))).filter (Place.isUse word false)).map
          (fun place => (place.here.span, word)) ∧
      anywhere.filter (fun hit =>
        hit.kind == .function && hit.span.isToken (scan source.text)) = functions ∧
      anywhere.filter (fun hit =>
        hit.kind == .variableName && hit.span.isToken (scan source.text)) = variableNames := by
  exact ⟨_, _, _, search_literal compile source identifier .function,
    search_literal compile source identifier .variableName,
    search_literal compile source identifier .any,
    map_names source identifier free true, map_names source identifier free false,
    Search.Field.filter_anywhere identifier free true,
    Search.Field.filter_anywhere identifier free false⟩

end Literal

/-- A word that is defined, called inside a call of a longer word, named without a call, and that
stands in a comment, a literal and a directive too. -/
theorem literal_searches_agree_called_and_named :
    let source := Source.ofText
      "int f(int n) \x7b ff(f (n)); return f; /* f */ \x7d\n#define f \"f\"\n"
    isIdentifier "f" = true ∧ isReserved "f" = false ∧
      ∃ functions variableNames anywhere,
        search Pattern.compiler source ⟨"f", .function, true⟩ = .ok functions ∧
        search Pattern.compiler source ⟨"f", .variableName, true⟩ = .ok variableNames ∧
        search Pattern.compiler source ⟨"f", .any, true⟩ = .ok anywhere ∧
        functions.map (fun hit => (hit.span.start, hit.isDefinition)) =
          [(4, true), (18, false)] ∧
        variableNames.map (fun hit => hit.span.start) = [33] ∧
        anywhere.map (fun hit => (hit.span.start, hit.kind)) =
          [(4, .function), (15, .function), (16, .function), (18, .function), (33, .variableName),
            (39, .comment), (49, .code), (54, .code), (57, .string)] ∧
        anywhere.filter (fun hit =>
          hit.kind == .function && hit.span.isToken (scan source.text)) = functions ∧
        anywhere.filter (fun hit =>
          hit.kind == .variableName && hit.span.isToken (scan source.text)) = variableNames := by
  intro source
  have identifier : isIdentifier "f" = true := by decide +kernel
  have free : isReserved "f" = false := by decide +kernel
  obtain ⟨functions, variableNames, anywhere, foundFunctions, foundVariables, foundAnywhere, -, -,
    called, named⟩ := literal_searches_agree Pattern.compiler source identifier free
  have isFunctions : search Pattern.compiler source ⟨"f", .function, true⟩ =
      .ok ((Search.Field.ofSource source).run (.exact "f".toList) .function) := rfl
  have isVariables : search Pattern.compiler source ⟨"f", .variableName, true⟩ =
      .ok ((Search.Field.ofSource source).run (.exact "f".toList) .variableName) := rfl
  have isAnywhere : search Pattern.compiler source ⟨"f", .any, true⟩ =
      .ok ((Search.Field.ofSource source).run (.exact "f".toList) .any) := rfl
  obtain rfl := Except.ok.inj (foundFunctions.symm.trans isFunctions)
  obtain rfl := Except.ok.inj (foundVariables.symm.trans isVariables)
  obtain rfl := Except.ok.inj (foundAnywhere.symm.trans isAnywhere)
  exact ⟨identifier, free, _, _, _, foundFunctions, foundVariables, foundAnywhere,
    by decide +kernel, by decide +kernel, by decide +kernel, called, named⟩

end CSurvey
