import CSurvey.Proofs.Search.Names
import CSurvey.Proofs.Sorted
import CSurvey.Proofs.Token.LineLookup

/-!
# Places of hits

A search goes through the text once: through all of its characters, through the insides
of some tokens, or over its names.  What it finds are parts of the text one behind the
other, and what it tells of a part is what the text has there.  Only the offsets have to
be carried from the inside of a token to the text, and the token that holds a byte has to
be found among all tokens.
-/

namespace CSurvey

/-- What a hit tells is what the text has at its span. -/
structure SearchMatch.Shows (source : Source) (hit : SearchMatch) : Prop where
  nonempty : hit.matchedText ≠ ""
  proper : hit.span.start < hit.span.stop
  fits : hit.span.Fits source.chars
  text : hit.matchedText =
    String.ofList (Text.slice source.chars hit.span.start hit.span.stop)
  line : source.lines.Holds hit.span.line hit.span.start
  endLine : source.lines.Holds hit.span.endLine (hit.span.stop - 1)

/-- What a hit that begins in a token is in, when the tokens `after` come behind that token. -/
def Token.matchKind (tok : Token) (after : List Token) : MatchKind :=
  if tok.kind.isLiteral then .string
  else if tok.kind.isComment then .comment
  else if tok.isName && !tok.directive then
    if Token.punctAt (significant after).head? "(" then .function else .variableName
  else .code

namespace Token

/-- Where the inside of a token begins. -/
def insideStart (tok : Token) : Nat :=
  if tok.kind.isLiteral then tok.span.start + 1 else tok.span.start

def insideStop (tok : Token) : Nat :=
  tok.insideStart + Text.byteLength tok.body.toList

variable {text : String} {tok : Token}

theorem start_le_insideStart (tok : Token) : tok.span.start ≤ tok.insideStart := by
  rw [insideStart]
  split
  · exact Nat.le_succ _
  · exact Nat.le_refl _

theorem insideStart_of_isLiteral (literal : tok.kind.isLiteral = true) :
    tok.insideStart = tok.span.start + Text.byteLength [tok.kind.quote] := by
  rw [insideStart, if_pos literal, Text.byteLength_cons, Text.byteLength_nil,
    Text.utf8Size_of_not_isWide tok.kind.isWide_quote]

theorem insideStop_of_isLiteral (member : tok ∈ scan text) (literal : tok.kind.isLiteral = true) :
    tok.insideStop + Text.byteLength tok.closing = tok.span.stop := by
  obtain ⟨front, part, back, -, spelled, -, span⟩ := (layout_scan text).exists_part member
  have parts := hasInside_of_mem_scan tok member literal
  have own : part = tok.kind.quote :: (tok.body.toList ++ tok.closing) := by
    rw [← parts, spelled, String.toList_ofList]
  rw [insideStop, insideStart_of_isLiteral literal, span]
  simp only [Span.cover, own, Text.byteLength_append, Text.byteLength_cons, Text.byteLength_nil]
  omega

theorem insideStop_of_not_isLiteral (member : tok ∈ scan text)
    (other : tok.kind.isLiteral = false) : tok.insideStop = tok.span.stop := by
  obtain ⟨front, part, back, -, spelled, -, span⟩ := (layout_scan text).exists_part member
  simp [insideStop, insideStart, body, other, spelled, span, Span.cover]

theorem insideStop_le_stop (member : tok ∈ scan text) : tok.insideStop ≤ tok.span.stop := by
  cases literal : tok.kind.isLiteral with
  | true => exact insideStop_of_isLiteral member literal ▸ Nat.le_add_right ..
  | false => exact Nat.le_of_eq (insideStop_of_not_isLiteral member literal)

/-- The inside of a token is a part of the text, where it is said to begin. -/
theorem exists_inside (member : tok ∈ scan text) :
    ∃ front back, text.toList = front ++ (tok.body.toList ++ back) ∧
      tok.insideStart = Text.byteLength front := by
  obtain ⟨front, part, back, eq, spelled, -, span⟩ := (layout_scan text).exists_part member
  have own : tok.text.toList = part := by rw [spelled, String.toList_ofList]
  cases literal : tok.kind.isLiteral with
  | true =>
    have parts := hasInside_of_mem_scan tok member literal
    rw [own] at parts
    refine ⟨front ++ [tok.kind.quote], tok.closing ++ back, ?_, ?_⟩
    · rw [eq, parts]
      simp
    · rw [insideStart_of_isLiteral literal, span, Text.byteLength_append]
      rfl
  | false =>
    have whole : tok.body.toList = part := by
      rw [body, literal, if_neg Bool.false_ne_true, own]
    refine ⟨front, back, by rw [whole, eq], ?_⟩
    rw [insideStart, literal, if_neg Bool.false_ne_true, span]
    rfl

end Token

namespace Search.Field

section Located

variable {cs : List Char} {found : List Hit} {offset : Nat}

theorem exists_front_of_mem_located (matched : Matched cs found) {start : Nat} {part : List Char}
    (member : (start, part) ∈ located offset found) :
    part ≠ [] ∧ ∃ front back, cs = front ++ (part ++ back) ∧
      start = offset + Text.byteLength front := by
  induction matched generalizing offset with
  | done => cases member
  | @hit rest hits gap text tail ih =>
    have later (member : (start, part) ∈
        located (offset + Text.byteLength gap + Text.byteLength text) hits) :
        part ≠ [] ∧ ∃ front back, gap ++ (text ++ rest) = front ++ (part ++ back) ∧
          start = offset + Text.byteLength front := by
      obtain ⟨nonempty, front, back, rfl, begins⟩ := ih member
      refine ⟨nonempty, gap ++ (text ++ front), back, by simp, ?_⟩
      simp only [begins, Text.byteLength_append]
      omega
    simp only [located] at member
    split at member
    · exact later member
    · rename_i nonempty
      rcases List.mem_cons.1 member with here | inRest
      · obtain ⟨rfl, rfl⟩ := Prod.mk.inj here
        exact ⟨fun nothing => nonempty (List.isEmpty_iff.2 nothing), gap, rest, rfl, rfl⟩
      · exact later inRest

/-- Each part that is located ends before the next one begins. -/
theorem pairwise_located (matched : Matched cs found) :
    (located offset found).Pairwise
      (fun first second => first.1 + Text.byteLength first.2 ≤ second.1) := by
  induction matched generalizing offset with
  | done => exact .nil
  | @hit rest hits gap text tail ih =>
    simp only [located]
    split
    · exact ih
    · refine List.pairwise_cons.2 ⟨fun second member => ?_, ih⟩
      obtain ⟨-, front, back, -, begins⟩ := exists_front_of_mem_located tail member
      rw [begins]
      exact Nat.le_add_right ..

end Located

variable {source : Source} {matcher : Matcher}

theorem shows_hit {front part back : List Char} (chars : source.chars = front ++ (part ++ back))
    (nonempty : part ≠ []) (kind : MatchKind) (isDefinition : Bool) :
    ((ofSource source).hit (Text.byteLength front) part kind isDefinition).Shows source := by
  have long := Text.byteLength_pos nonempty
  have size : Text.byteLength source.chars =
      Text.byteLength front + (Text.byteLength part + Text.byteLength back) := by
    rw [chars, Text.byteLength_append, Text.byteLength_append]
  have holds {offset : Nat} (inside : offset < Text.byteLength source.chars) :
      source.lines.Holds (source.lines.lineOf offset) offset :=
    (LineIndex.holds_iff inside _).2 rfl
  exact {
    nonempty := by simpa [hit] using nonempty
    proper := Nat.lt_add_of_pos_right long
    fits := ⟨⟨front, part ++ back, chars, rfl⟩,
      ⟨front ++ part, back, by rw [chars, List.append_assoc], Text.byteLength_append front part⟩⟩
    text := by
      have own := Text.slice_of_append front part back chars
      rw [Text.byteLength_append] at own
      exact (congrArg String.ofList own).symm
    line := holds (by omega)
    endLine := holds (show Text.byteLength front + Text.byteLength part - 1 <
      Text.byteLength source.chars by omega) }

section Inside

variable (matched : ∀ cs, Matched cs (matcher.hits cs)) {tok : Token}
include matched

/-- What is found in a token is a part of the text within the inside of the token. -/
theorem exists_front_of_mem_inside (inText : tok ∈ scan source.text) {start : Nat}
    {part : List Char}
    (member : (start, part) ∈ located tok.insideStart (matcher.hits tok.body.toList)) :
    tok.insideStart ≤ start ∧ start + Text.byteLength part ≤ tok.insideStop ∧ part ≠ [] ∧
      ∃ front back, source.chars = front ++ (part ++ back) ∧ start = Text.byteLength front := by
  obtain ⟨before, after, chars, begins⟩ := Token.exists_inside inText
  obtain ⟨nonempty, front, back, own, starts⟩ := exists_front_of_mem_located (matched _) member
  have length : Text.byteLength tok.body.toList =
      Text.byteLength front + (Text.byteLength part + Text.byteLength back) := by
    rw [own, Text.byteLength_append, Text.byteLength_append]
  refine ⟨by omega, ?_, nonempty, before ++ front, back ++ after, ?_, ?_⟩
  · rw [Token.insideStop]
    omega
  · rw [Source.chars, chars, own]
    simp
  · rw [starts, begins, Text.byteLength_append]

theorem exists_token_of_mem_inside {keep : TokenKind → Bool} {kind : MatchKind}
    {hit : SearchMatch} (member : hit ∈ (ofSource source).inside matcher keep kind) :
    hit.Shows source ∧ hit.kind = kind ∧ ∃ tok ∈ scan source.text, keep tok.kind = true ∧
      tok.insideStart ≤ hit.span.start ∧ hit.span.stop ≤ tok.insideStop := by
  obtain ⟨tok, kept, inToken⟩ := List.mem_flatMap.1 member
  obtain ⟨inText, keeps⟩ := List.mem_filter.1 kept
  obtain ⟨⟨start, part⟩, located, rfl⟩ := List.mem_map.1 inToken
  obtain ⟨begins, ends, nonempty, front, back, chars, rfl⟩ :=
    exists_front_of_mem_inside matched inText located
  exact ⟨shows_hit chars nonempty kind false, rfl, tok, inText, keeps, begins, ends⟩

theorem pairwise_inside (keep : TokenKind → Bool) (kind : MatchKind) :
    ((ofSource source).inside matcher keep kind).Pairwise
      (fun first second => first.span.stop ≤ second.span.start) := by
  refine List.pairwise_flatMap.2 ⟨fun tok _ => ?_, ?_⟩
  · exact List.pairwise_map.2 (pairwise_located (matched _))
  · have apart : ((scan source.text).filter (fun tok => keep tok.kind)).Pairwise
        (fun first second => first.span.stop ≤ second.span.start) :=
      (layout_scan source.text).pairwise_stop_le_start.filter _
    refine apart.imp_of_mem (fun {first second} isFirst isSecond before => ?_)
    intro one inFirst other inSecond
    obtain ⟨⟨start, part⟩, located, rfl⟩ := List.mem_map.1 inFirst
    obtain ⟨⟨later, next⟩, locatedLater, rfl⟩ := List.mem_map.1 inSecond
    have inText := (List.mem_filter.1 isFirst).1
    have ends := (exists_front_of_mem_inside matched inText located).2.1
    have begins :=
      (exists_front_of_mem_inside matched (List.mem_filter.1 isSecond).1 locatedLater).1
    calc start + Text.byteLength part
      _ ≤ first.insideStop := ends
      _ ≤ first.span.stop := Token.insideStop_le_stop inText
      _ ≤ second.span.start := before
      _ ≤ second.insideStart := second.start_le_insideStart
      _ ≤ later := begins

end Inside

section Anywhere

variable (matched : ∀ cs, Matched cs (matcher.hits cs))
include matched

theorem classify_of_mem_anywhere {hit : SearchMatch}
    (member : hit ∈ (ofSource source).anywhere matcher) :
    hit.Shows source ∧ hit.kind = ((ofSource source).classify hit.span.start).1 := by
  obtain ⟨⟨start, part⟩, located, rfl⟩ := List.mem_map.1 member
  obtain ⟨nonempty, front, back, chars, begins⟩ := exists_front_of_mem_located (matched _) located
  rw [Nat.zero_add] at begins
  subst begins
  exact ⟨shows_hit chars nonempty _ _, rfl⟩

theorem pairwise_anywhere :
    ((ofSource source).anywhere matcher).Pairwise
      (fun first second => first.span.stop ≤ second.span.start) :=
  List.pairwise_map.2 (pairwise_located (matched _))

end Anywhere

theorem classify_matchKind {before after : List Token} {tok : Token} {offset : Nat}
    (whole : scan source.text = before ++ tok :: after) (begins : tok.span.start ≤ offset)
    (ends : offset < tok.span.stop) :
    ((ofSource source).classify offset).1 = tok.matchKind after := by
  rw [classify_eq whole begins ends, Token.matchKind]
  split
  · rfl
  split
  · rfl
  split
  · split <;> rfl
  · rfl

def classifyByHalving (field : Field) (offset : Nat) : MatchKind × Bool :=
  let index := Sorted.partitionPoint (fun tok => tok.span.stop ≤ offset) field.tokens
  match field.tokens[index]?.filter (fun tok => tok.span.start ≤ offset) with
  | none => (.code, false)
  | some tok =>
    match tok.kind with
    | .string | .char => (.string, false)
    | .lineComment | .blockComment => (.comment, false)
    | .code =>
      if tok.isName && !tok.directive then
        let here := Sorted.partitionPoint (fun other => other.span.start < tok.span.start)
          field.significant
        if Token.punctAt field.significant[here + 1]? "(" then
          (.function, definesAt field.significant here)
        else (.variableName, false)
      else (.code, false)

/-- The tokens lie in order, so halving finds the same ones. -/
theorem classifyByHalving_eq (source : Source) (offset : Nat) :
    (ofSource source).classifyByHalving offset = (ofSource source).classify offset := by
  have sorted := pairwise_start_scan source.text
  have stops : (ofSource source).tokens.Pairwise (fun first second =>
      decide (second.span.stop ≤ offset) = true → decide (first.span.stop ≤ offset) = true) := by
    refine (layout_scan source.text).pairwise_stop_le_start.imp_of_mem ?_
    intro first second _ member before
    have proper := start_lt_stop_of_mem_scan member
    simp only [decide_eq_true_eq]
    omega
  have starts (bound : Nat) : (ofSource source).significant.Pairwise (fun first second =>
      decide (second.span.start < bound) = true → decide (first.span.start < bound) = true) := by
    refine (sorted.filter _).imp (fun before => ?_)
    simp only [decide_eq_true_eq]
    omega
  rw [classifyByHalving, classify, Sorted.dropWhile_eq_drop stops]
  dsimp only
  rw [List.head?_drop]
  generalize (ofSource source).tokens[Sorted.partitionPoint _ _]? = found
  cases found with
  | none => rfl
  | some tok =>
    by_cases outside : offset < tok.span.start
    · simp [Option.filter, outside, Nat.not_le.2 outside]
    · simp only [Option.filter, Nat.not_lt.1 outside, outside, decide_true, if_true, if_false,
        Sorted.dropWhile_eq_drop (starts tok.span.start), List.getElem?_drop]
      cases kind : tok.kind <;>
        simp [TokenKind.isLiteral, TokenKind.isComment, definesAt, Token.isName, Token.isIdent,
          Token.isCode, kind]

section Names

variable {calls : Bool}

theorem shows_of_mem_names {hit : SearchMatch}
    (member : hit ∈ (ofSource source).names matcher calls (ofSource source).significant) :
    hit.Shows source := by
  obtain ⟨front, tok, back, whole, name, rfl⟩ := exists_of_mem_names member
  have kept : tok ∈ (ofSource source).significant := whole ▸ List.mem_append_cons_self
  have inText : tok ∈ scan source.text := (mem_significant.1 kept).1
  simp only [Token.isName, Token.isIdent, Bool.and_eq_true] at name
  have identifier := name.1.2
  obtain ⟨-, passed, rest, chars, span, -⟩ := exists_word_of_mem_scan inText identifier
  rw [← hit_of_token identifier inText rfl]
  have begins : tok.span.start = Text.byteLength passed := by rw [span]; rfl
  rw [begins]
  exact shows_hit chars (Lexeme.toList_ne_nil_of_isIdentifier identifier) _ _

theorem names_never (field : Field) (tokens : List Token) :
    field.names .never calls tokens = [] := by
  induction tokens with
  | nil => rfl
  | cons tok rest ih => simp [names, Matcher.matchesName, ih]

theorem pairwise_names (field : Field) {tokens : List Token}
    (apart : tokens.Pairwise (fun first second => first.span.stop ≤ second.span.start)) :
    (field.names matcher calls tokens).Pairwise
      (fun first second => first.span.stop ≤ second.span.start) := by
  induction tokens with
  | nil => exact .nil
  | cons tok rest ih =>
    obtain ⟨before, apart⟩ := List.pairwise_cons.1 apart
    rw [names]
    split
    · refine List.pairwise_cons.2 ⟨fun hit member => ?_, ih apart⟩
      obtain ⟨front, other, back, rfl, -, rfl⟩ := exists_of_mem_names member
      exact before other List.mem_append_cons_self
    · exact ih apart

end Names

end Search.Field

/-- The hits of a search of one kind in a source. -/
structure Search.Places (source : Source) (kind : SearchKind) (hits : List SearchMatch) :
    Prop where
  apart : hits.Pairwise (fun first second => first.span.stop ≤ second.span.start)
  /-- Nothing is left to sort. -/
  sorted : Sorted.sort (fun first second => first.span.start ≤ second.span.start) hits = hits
  shows : ∀ hit ∈ hits, hit.Shows source
  /-- A hit in a literal is behind the quote that opens it, and before the one that closes it if
  there is one. -/
  string : kind = .string → ∀ hit ∈ hits, hit.kind = .string ∧
    ∃ tok ∈ scan source.text, tok.kind.isLiteral = true ∧
      tok.text.toList = tok.kind.quote :: (tok.body.toList ++ tok.closing) ∧
      tok.span.start + Text.byteLength [tok.kind.quote] ≤ hit.span.start ∧
      hit.span.stop + Text.byteLength tok.closing ≤ tok.span.stop
  comment : kind = .comment → ∀ hit ∈ hits, hit.kind = .comment ∧
    ∃ tok ∈ scan source.text, tok.kind.isComment = true ∧
      tok.span.start ≤ hit.span.start ∧ hit.span.stop ≤ tok.span.stop
  /-- A hit found anywhere is what the token that holds its first byte is. -/
  holder : kind = .any → ∀ hit ∈ hits, ∀ before tok after,
    scan source.text = before ++ tok :: after → tok.span.start ≤ hit.span.start →
      hit.span.start < tok.span.stop → hit.kind = tok.matchKind after
  noHolder : kind = .any → ∀ hit ∈ hits,
    (∀ tok ∈ scan source.text,
      ¬ (tok.span.start ≤ hit.span.start ∧ hit.span.start < tok.span.stop)) →
    hit.kind = .code

namespace Search.Field

theorem run_never (field : Field) (kind : SearchKind) : field.run .never kind = [] := by
  cases kind with
  | function => exact names_never field _
  | variableName => exact names_never field _
  | string => simp [run, inside, Matcher.hits, located]
  | comment => simp [run, inside, Matcher.hits, located]
  | any => simp [run, anywhere, Matcher.hits, located]

section Run

variable {source : Source} {matcher : Matcher} (matched : ∀ cs, Matched cs (matcher.hits cs))
include matched

theorem shows_of_mem_run {kind : SearchKind} {hit : SearchMatch}
    (member : hit ∈ (ofSource source).run matcher kind) : hit.Shows source := by
  cases kind with
  | function => exact shows_of_mem_names member
  | variableName => exact shows_of_mem_names member
  | string => exact (exists_token_of_mem_inside matched member).1
  | comment => exact (exists_token_of_mem_inside matched member).1
  | any => exact (classify_of_mem_anywhere matched member).1

theorem pairwise_run (kind : SearchKind) :
    ((ofSource source).run matcher kind).Pairwise
      (fun first second => first.span.stop ≤ second.span.start) := by
  have names : (ofSource source).significant.Pairwise
      (fun first second => first.span.stop ≤ second.span.start) :=
    (layout_scan source.text).pairwise_stop_le_start.filter _
  cases kind with
  | function => exact pairwise_names _ names
  | variableName => exact pairwise_names _ names
  | string => exact pairwise_inside matched _ _
  | comment => exact pairwise_inside matched _ _
  | any => exact pairwise_anywhere matched

theorem places_run (kind : SearchKind) :
    Places source kind ((ofSource source).run matcher kind) where
  apart := pairwise_run matched kind
  sorted := by
    refine Sorted.sort_of_pairwise ((pairwise_run matched kind).imp_of_mem ?_)
    intro first second member _ before
    exact decide_eq_true (Nat.le_of_lt
      (Nat.lt_of_lt_of_le (shows_of_mem_run matched member).proper before))
  shows hit := shows_of_mem_run matched
  string isString hit member := by
    subst isString
    obtain ⟨-, kind, tok, inText, literal, begins, ends⟩ := exists_token_of_mem_inside matched member
    refine ⟨kind, tok, inText, literal, hasInside_of_mem_scan tok inText literal, ?_, ?_⟩
    · rwa [Token.insideStart_of_isLiteral literal] at begins
    · rw [← Token.insideStop_of_isLiteral inText literal]
      exact Nat.add_le_add_right ends _
  comment isComment hit member := by
    subst isComment
    obtain ⟨-, kind, tok, inText, comment, begins, ends⟩ := exists_token_of_mem_inside matched member
    exact ⟨kind, tok, inText, comment, Nat.le_trans tok.start_le_insideStart begins,
      Nat.le_trans ends (Token.insideStop_le_stop inText)⟩
  holder isAny hit member before tok after whole begins ends := by
    subst isAny
    rw [(classify_of_mem_anywhere matched member).2, classify_matchKind whole begins ends]
  noHolder isAny hit member outside := by
    subst isAny
    rw [(classify_of_mem_anywhere matched member).2, classify_outside outside]

end Run

end Search.Field

/-- A search with a valid pattern finds parts of the text, in order and apart, each with its lines
and with what it is in, if patterns are compiled to such that match parts of a text in order and
apart; it finds nothing for the empty pattern. -/
theorem search_places_hits (compile : PatternCompiler) (ordered : compile.Ordered)
    (source : Source) :
    (∀ offset, (Search.Field.ofSource source).classifyByHalving offset =
      (Search.Field.ofSource source).classify offset) ∧
    ∀ query : SearchQuery,
      (query.pattern = "" → search compile source query = .ok []) ∧
      ∀ matcher, query.matcher compile = .ok matcher →
        ∃ hits, search compile source query = .ok hits ∧
          Search.Places source query.kind hits := by
  refine ⟨Search.Field.classifyByHalving_eq source, fun query => ⟨fun nothing => ?_, ?_⟩⟩
  · have isMatcher : query.matcher compile = .ok .never := by
      rw [SearchQuery.matcher, nothing]
      rfl
    rw [search, isMatcher]
    exact congrArg Except.ok (Search.Field.run_never _ query.kind)
  · intro matcher isMatcher
    refine ⟨(Search.Field.ofSource source).run matcher query.kind, ?_, ?_⟩
    · rw [search, isMatcher]
      rfl
    · exact Search.Field.places_run (query.matched_hits ordered isMatcher) query.kind

/-- A pattern that also matches without characters, in a literal with an escaped line feed that is
not closed, and the same pattern anywhere: there one hit is in no token and one is a call. -/
theorem search_places_hits_not_closed :
    let source := Source.ofText "xx (1) \"é\\\nxxx"
    let inLiterals : SearchQuery := ⟨"\nx|x*", .string, false⟩
    let anywhere : SearchQuery := ⟨" |x*", .any, false⟩
    Pattern.compiler.Ordered ∧
    (∃ hits, search Pattern.compiler source inLiterals = .ok hits ∧
      hits.map (fun hit => (hit.span, hit.matchedText)) =
        [(⟨11, 13, 1, 2⟩, "\nx"), (⟨13, 15, 2, 2⟩, "xx")] ∧
      Search.Places source .string hits) ∧
    ∃ hits, search Pattern.compiler source anywhere = .ok hits ∧
      hits.map (fun hit => (hit.span, hit.kind)) =
        [(⟨0, 2, 1, 1⟩, .function), (⟨2, 3, 1, 1⟩, .code), (⟨6, 7, 1, 1⟩, .code),
          (⟨12, 15, 2, 2⟩, .string)] ∧
      Search.Places source .any hits := by
  intro source inLiterals anywhere
  have places := (search_places_hits Pattern.compiler Pattern.ordered_compiler source).2
  have exists_matcher (query : SearchQuery)
      (valid : (query.matcher Pattern.compiler).toOption.isSome = true) :
      ∃ matcher, query.matcher Pattern.compiler = .ok matcher := by
    cases isMatcher : query.matcher Pattern.compiler with
    | ok matcher => exact ⟨matcher, rfl⟩
    | error fault =>
      rw [isMatcher] at valid
      cases valid
  obtain ⟨first, isFirst⟩ := exists_matcher inLiterals (by decide +kernel)
  obtain ⟨second, isSecond⟩ := exists_matcher anywhere (by decide +kernel)
  obtain ⟨inside, found, placed⟩ := (places inLiterals).2 first isFirst
  obtain ⟨all, foundAll, placedAll⟩ := (places anywhere).2 second isSecond
  have insideAre : (search Pattern.compiler source inLiterals).toOption.map (fun hits =>
      hits.map (fun hit => (hit.span, hit.matchedText))) =
        some [(⟨11, 13, 1, 2⟩, "\nx"), (⟨13, 15, 2, 2⟩, "xx")] := by decide +kernel
  have allAre : (search Pattern.compiler source anywhere).toOption.map (fun hits =>
      hits.map (fun hit => (hit.span, hit.kind))) =
        some [(⟨0, 2, 1, 1⟩, .function), (⟨2, 3, 1, 1⟩, .code), (⟨6, 7, 1, 1⟩, .code),
          (⟨12, 15, 2, 2⟩, .string)] := by decide +kernel
  rw [found] at insideAre
  rw [foundAll] at allAre
  exact ⟨Pattern.ordered_compiler, ⟨inside, found, Option.some.inj insideAre, placed⟩,
    all, foundAll, Option.some.inj allAre, placedAll⟩

end CSurvey
