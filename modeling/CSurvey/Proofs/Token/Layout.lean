import CSurvey.Proofs.Token.Run

/-!
# The layout of tokens in a text

The tokens of a scan lie one after the other, and only separators stand between
them.  The layout of a text under its tokens is stated as a relation that reads
the text once; places, order, lines and gaps of the tokens are read off it.
-/

namespace CSurvey

namespace Span

/-- The bytes and lines of a part of a text that follows `front`. -/
def cover (front part : List Char) : Span :=
  ⟨Text.byteLength front, Text.byteLength (front ++ part), 1 + front.count '\n',
    1 + (front ++ part).count '\n'⟩

/-- The span begins and ends between characters of a text. -/
def Fits (cs : List Char) (span : Span) : Prop :=
  Text.IsBoundary cs span.start ∧ Text.IsBoundary cs span.stop

theorem Fits.join {cs : List Char} {first second : Span} (firstFits : first.Fits cs)
    (secondFits : second.Fits cs) : (first.join second).Fits cs := by
  refine ⟨?_, ?_⟩
  · rcases Nat.le_total first.start second.start with le | le
    · simpa [Span.join, Nat.min_eq_left le] using firstFits.1
    · simpa [Span.join, Nat.min_eq_right le] using secondFits.1
  · rcases Nat.le_total first.stop second.stop with le | le
    · simpa [Span.join, Nat.max_eq_right le] using secondFits.2
    · simpa [Span.join, Nat.max_eq_left le] using firstFits.2

end Span

namespace Lexeme

theorem utf8Size_of_isSeparator {c : Char} (separator : isSeparator c = true) :
    c.utf8Size = 1 := by
  simp only [isSeparator, isGap, Bool.or_eq_true, beq_iff_eq] at separator
  rcases separator with rfl | ((((rfl | rfl) | rfl) | rfl) | rfl) <;> rfl

theorem isSeparator_of_isGap {c : Char} (blank : isGap c = true) : isSeparator c = true := by
  simp [isSeparator, blank]

theorem ne_newline_of_isGap {c : Char} (blank : isGap c = true) : c ≠ '\n' := by
  rintro rfl
  simp [isGap] at blank

/-- The bytes that can stand between tokens: space, tab, carriage return, line feed, vertical
tab and form feed. -/
def separatorOctets : List UInt8 :=
  [0x20, 0x09, 0x0D, 0x0A, 0x0B, 0x0C]

theorem mem_separatorOctets {c : Char} (separator : isSeparator c = true) {octet : UInt8}
    (member : octet ∈ Text.octets [c]) : octet ∈ separatorOctets := by
  simp only [isSeparator, isGap, Bool.or_eq_true, beq_iff_eq] at separator
  rcases separator with rfl | ((((rfl | rfl) | rfl) | rfl) | rfl) <;>
    · rw [List.mem_singleton.1 member]
      decide

end Lexeme

namespace ScanState

/-- The state has passed exactly the characters `passed`. -/
structure At (passed : List Char) (state : ScanState) : Prop where
  offset : state.offset = Text.byteLength passed
  line : state.line = 1 + passed.count '\n'

theorem At.initial : At [] initial :=
  ⟨rfl, rfl⟩

@[simp]
theorem opened_offset (state : ScanState) (c : Char) :
    (state.opened c).offset = state.offset := by
  unfold opened
  split <;> rfl

@[simp]
theorem opened_line (state : ScanState) (c : Char) : (state.opened c).line = state.line := by
  unfold opened
  split <;> rfl

theorem At.opened {passed : List Char} {state : ScanState} (here : At passed state) (c : Char) :
    At passed (state.opened c) :=
  ⟨by rw [opened_offset, here.offset], by rw [opened_line, here.line]⟩

theorem At.emit_span {passed : List Char} {state : ScanState} (here : At passed state)
    (kind : TokenKind) (cs : List Char) (closed : Bool) :
    (state.emit kind cs closed).1.span = Span.cover passed cs := by
  simp only [emit, Span.cover, here.offset, here.line, Text.byteLength_append, List.count_append,
    Nat.add_assoc]

theorem At.emit {passed : List Char} {state : ScanState} (here : At passed state)
    (kind : TokenKind) (cs : List Char) (closed : Bool) :
    At (passed ++ cs) (state.emit kind cs closed).2 where
  offset := by simp only [ScanState.emit, here.offset, Text.byteLength_append]
  line := by simp only [ScanState.emit, here.line, List.count_append, Nat.add_assoc]

theorem At.newline {passed : List Char} {state : ScanState} (here : At passed state) :
    At (passed ++ ['\n']) state.newline where
  offset := by
    rw [ScanState.newline, here.offset, Text.byteLength_append]
    rfl
  line := by
    rw [ScanState.newline, here.line, List.count_append]
    rfl

theorem At.gap {passed : List Char} {state : ScanState} (here : At passed state) {c : Char}
    (blank : Lexeme.isGap c = true) : At (passed ++ [c]) (state.gap c) where
  offset := by
    have size := Lexeme.utf8Size_of_isSeparator (Lexeme.isSeparator_of_isGap blank)
    simp [ScanState.gap, here.offset, size]
  line := by
    have other : ¬ c = '\n' := Lexeme.ne_newline_of_isGap blank
    simp [ScanState.gap, here.line, other]

end ScanState

/-- A text after the characters `passed`, made of the tokens in order and of separators. -/
inductive Layout : List Char → List Char → List Token → Prop
  | done (passed : List Char) : Layout passed [] []
  | separator {passed rest : List Char} {c : Char} {tokens : List Token}
      (blank : Lexeme.isSeparator c = true) (tail : Layout (passed ++ [c]) rest tokens) :
      Layout passed (c :: rest) tokens
  | token {passed part rest : List Char} {tok : Token} {tokens : List Token}
      (text : tok.text = String.ofList part) (nonempty : part ≠ [])
      (span : tok.span = Span.cover passed part) (tail : Layout (passed ++ part) rest tokens) :
      Layout passed (part ++ rest) (tok :: tokens)

theorem ScanState.Run.layout {first last : ScanState} {cs : List Char} {tokens : List Token}
    {passed : List Char} (run : Run first cs tokens last []) (here : At passed first) :
    Layout passed cs tokens := by
  generalize nothing : ([] : List Char) = rest at run
  induction run generalizing passed with
  | done =>
    subst nothing
    exact .done passed
  | step head tail ih =>
    cases head with
    | newline rest => exact .separator rfl (ih here.newline nothing)
    | gap rest blank =>
      exact .separator (Lexeme.isSeparator_of_isGap blank) (ih (here.gap blank) nothing)
    | @token c kind more closed rest solid read =>
      exact .token rfl (List.cons_ne_nil c more) ((here.opened c).emit_span kind (c :: more) closed)
        (ih ((here.opened c).emit kind (c :: more) closed) nothing)

/-- The tokens of a text lie in it one after the other. -/
theorem layout_scan (text : String) : Layout [] text.toList (scan text) := by
  obtain ⟨last, run⟩ := exists_run_scan text
  exact run.layout .initial

namespace Layout

variable {passed cs : List Char} {tokens : List Token}

theorem exists_part (layout : Layout passed cs tokens) {tok : Token} (member : tok ∈ tokens) :
    ∃ front part back, cs = front ++ (part ++ back) ∧ tok.text = String.ofList part ∧
      part ≠ [] ∧ tok.span = Span.cover (passed ++ front) part := by
  induction layout with
  | done => simp at member
  | @separator passed rest c tokens blank tail ih =>
    obtain ⟨front, part, back, rfl, text, nonempty, span⟩ := ih member
    exact ⟨c :: front, part, back, rfl, text, nonempty, by simpa using span⟩
  | @token passed part rest first tokens text nonempty span tail ih =>
    rcases List.mem_cons.1 member with rfl | later
    · exact ⟨[], part, rest, rfl, text, nonempty, by simpa using span⟩
    · obtain ⟨front, other, back, rfl, otherText, otherNonempty, otherSpan⟩ := ih later
      exact ⟨part ++ front, other, back, by simp, otherText, otherNonempty,
        by simpa using otherSpan⟩

theorem le_start (layout : Layout passed cs tokens) {tok : Token} (member : tok ∈ tokens) :
    Text.byteLength passed ≤ tok.span.start := by
  obtain ⟨front, part, back, -, -, -, span⟩ := layout.exists_part member
  simp [span, Span.cover]

theorem le_line (layout : Layout passed cs tokens) {tok : Token} (member : tok ∈ tokens) :
    1 + passed.count '\n' ≤ tok.span.line := by
  obtain ⟨front, part, back, -, -, -, span⟩ := layout.exists_part member
  simp only [span, Span.cover, List.count_append]
  omega

/-- Each token ends before the later ones begin. -/
theorem pairwise_stop_le_start (layout : Layout passed cs tokens) :
    tokens.Pairwise (fun first second => first.span.stop ≤ second.span.start) := by
  induction layout with
  | done => exact .nil
  | separator _ _ ih => exact ih
  | token _ _ span tail ih =>
    refine List.pairwise_cons.2 ⟨fun second member => ?_, ih⟩
    rw [span]
    exact tail.le_start member

/-- No token reaches a line after the one on which a later token begins. -/
theorem pairwise_endLine_le_line (layout : Layout passed cs tokens) :
    tokens.Pairwise (fun first second => first.span.endLine ≤ second.span.line) := by
  induction layout with
  | done => exact .nil
  | separator _ _ ih => exact ih
  | token _ _ span tail ih =>
    refine List.pairwise_cons.2 ⟨fun second member => ?_, ih⟩
    rw [span]
    exact tail.le_line member

theorem mem_separatorOctets (layout : Layout passed cs tokens) {offset : Nat} {octet : UInt8}
    (read : (Text.octets cs)[offset]? = some octet)
    (outside : ∀ tok ∈ tokens, ¬ (tok.span.start ≤ Text.byteLength passed + offset ∧
      Text.byteLength passed + offset < tok.span.stop)) :
    octet ∈ Lexeme.separatorOctets := by
  induction layout generalizing offset with
  | done => simp [Text.octets] at read
  | @separator passed rest c tokens blank tail ih =>
    have size := Lexeme.utf8Size_of_isSeparator blank
    rw [← List.singleton_append, Text.octets_append, List.getElem?_append] at read
    simp only [Text.length_octets, Text.byteLength_cons, Text.byteLength_nil, size] at read
    split at read
    · exact Lexeme.mem_separatorOctets blank (List.mem_of_getElem? read)
    · refine ih read (fun tok member => ?_)
      have total : Text.byteLength (passed ++ [c]) + (offset - (1 + 0)) =
          Text.byteLength passed + offset := by
        simp only [Text.byteLength_append, Text.byteLength_cons, Text.byteLength_nil, size]
        omega
      rw [total]
      exact outside tok member
  | @token passed part rest tok tokens text nonempty span tail ih =>
    have beyond : Text.byteLength part ≤ offset := by
      have away := outside tok (List.mem_cons_self ..)
      simp only [span, Span.cover, Text.byteLength_append] at away
      omega
    rw [Text.octets_append, List.getElem?_append_right (by simpa using beyond),
      Text.length_octets] at read
    refine ih read (fun other member => ?_)
    have total : Text.byteLength (passed ++ part) + (offset - Text.byteLength part) =
        Text.byteLength passed + offset := by
      rw [Text.byteLength_append]
      omega
    rw [total]
    exact outside other (List.mem_cons_of_mem _ member)

end Layout

theorem fits_of_mem_scan {text : String} {tok : Token} (member : tok ∈ scan text) :
    tok.span.Fits text.toList := by
  obtain ⟨front, part, back, eq, -, -, span⟩ := (layout_scan text).exists_part member
  rw [List.nil_append] at span
  refine ⟨⟨front, part ++ back, eq, ?_⟩, ⟨front ++ part, back, ?_, ?_⟩⟩
  · rw [span, Span.cover]
  · rw [eq, List.append_assoc]
  · rw [span, Span.cover]

/-- The tokens of a text are non-empty slices of it between character boundaries, in order and
apart; their lines are the line feeds before and in them; and every byte outside all of them
separates tokens. -/
theorem scan_tiles_text (text : String) :
    (scan text).Pairwise (fun first second => first.span.stop ≤ second.span.start) ∧
    (∀ tok ∈ scan text,
      tok.span.start < tok.span.stop ∧
      Text.IsBoundary text.toList tok.span.start ∧
      Text.IsBoundary text.toList tok.span.stop ∧
      tok.text = String.ofList (Text.slice text.toList tok.span.start tok.span.stop) ∧
      tok.span.line = 1 + (Text.takeBytes tok.span.start text.toList).count '\n' ∧
      tok.span.endLine = tok.span.line + tok.text.toList.count '\n') ∧
    (∀ offset octet, (Text.octets text.toList)[offset]? = some octet →
      (∀ tok ∈ scan text, ¬ (tok.span.start ≤ offset ∧ offset < tok.span.stop)) →
      octet ∈ Lexeme.separatorOctets) := by
  have layout := layout_scan text
  refine ⟨layout.pairwise_stop_le_start, fun tok member => ?_, fun offset octet read outside => ?_⟩
  · obtain ⟨front, part, back, eq, tokText, nonempty, span⟩ := layout.exists_part member
    rw [List.nil_append] at span
    have longer := Text.byteLength_pos nonempty
    obtain ⟨begins, ends⟩ := fits_of_mem_scan member
    refine ⟨?_, begins, ends, ?_, ?_, ?_⟩
    · simp only [span, Span.cover, Text.byteLength_append]
      omega
    · rw [tokText, span, Span.cover, Text.slice_of_append front part back eq]
    · rw [span, Span.cover, Text.takeBytes_of_append eq]
    · rw [tokText, span, Span.cover, String.toList_ofList, List.count_append, Nat.add_assoc]
  · exact layout.mem_separatorOctets read (by simpa using outside)

/-- A literal with an escaped line feed after a character of two bytes, and the line feed after
it, which separates. -/
theorem scan_tiles_text_escaped_newline :
    let text := "é \"a\\\nb\"\n"
    let literal : Token := ⟨.string, "\"a\\\nb\"", ⟨3, 9, 1, 2⟩, 0, 0, false, true⟩
    literal ∈ scan text ∧
      literal.span.line = 1 + (Text.takeBytes literal.span.start text.toList).count '\n' ∧
      literal.span.endLine = literal.span.line + literal.text.toList.count '\n' ∧
      (Text.octets text.toList)[9]? = some 0x0A ∧ 0x0A ∈ Lexeme.separatorOctets := by
  intro text literal
  have member : literal ∈ scan text := by decide +kernel
  have read : (Text.octets text.toList)[9]? = some 0x0A := by decide +kernel
  have outside : ∀ tok ∈ scan text, ¬ (tok.span.start ≤ 9 ∧ 9 < tok.span.stop) := by
    decide +kernel
  have ⟨_, places, separated⟩ := scan_tiles_text text
  have ⟨_, _, _, _, line, endLine⟩ := places literal member
  exact ⟨member, line, endLine, read, separated 9 0x0A read outside⟩

end CSurvey
