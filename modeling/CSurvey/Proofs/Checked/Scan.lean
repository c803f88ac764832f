import CSurvey.Proofs.Checked.Lexeme
import CSurvey.Proofs.Token.LineEnd

/-!
# The scanner byte by byte

The scanner keeps the position of a byte and finds out by looking back whether a
backslash stands before a line feed.  It reads the tokens of a scan: at each step
it stands between characters, and what it would find looking back is what the
state of a scan holds.
-/

namespace CSurvey

theorem Lexeme.not_isWide_of_isSeparator {c : Char} (separator : isSeparator c = true) :
    Text.isWide c = false := by
  simp only [isSeparator, isGap, Bool.or_eq_true, beq_iff_eq] at separator
  rcases separator with rfl | ((((rfl | rfl) | rfl) | rfl) | rfl) <;> rfl

namespace Checked

open Text (isWide bytes byteLength)

/-- Where the scanner stands: the position of a byte, the line, open braces and parentheses,
whether the line has a token other than a comment, and whether a directive is open. -/
structure Reader where
  position : Nat
  line : Nat
  depth : Nat
  parens : Nat
  lineHasCode : Bool
  inDirective : Bool

/-- Whether a backslash stands before a position, carriage returns not counted. -/
def lineContinues (bytes : List Char) : (position : Nat) → Checked Bool
  | 0 => .ok false
  | before + 1 => do
    let byte ← item bytes before
    if byte = '\r' then lineContinues bytes before else return byte == '\\'

namespace Reader

/-- Before the first byte. -/
def initial : Reader :=
  ⟨0, 1, 0, 0, false, false⟩

/-- Past a line feed between tokens. -/
def newline (bytes : List Char) (reader : Reader) : Checked Reader := do
  let continues ← if reader.inDirective then lineContinues bytes reader.position else .ok false
  return { reader with
    position := reader.position + 1
    line := reader.line + 1
    lineHasCode := false
    inDirective := continues }

/-- The token of the given kind from here to a position, and the reader after it. -/
def emit (cs : List Char) (reader : Reader) (kind : TokenKind) (stop : Nat) (terminated : Bool) :
    Checked (Token × Reader) := do
  let text ← cut cs reader.position stop
  let endLine := reader.line + text.count '\n'
  let structural := kind == .code && !reader.inDirective
  let depth := if structural && text == ['}'] then reader.depth - 1 else reader.depth
  let parens := if structural && text == [')'] then reader.parens - 1 else reader.parens
  return (
    { kind
      text := String.ofList text
      span := ⟨reader.position, stop, reader.line, endLine⟩
      depth
      parenDepth := parens
      directive := reader.inDirective
      terminated },
    { position := stop
      line := endLine
      depth := if structural && text == ['{'] then reader.depth + 1 else depth
      parens := if structural && text == ['('] then reader.parens + 1 else parens
      lineHasCode := reader.lineHasCode || !kind.isComment
      inDirective := reader.inDirective })

/-- The token that begins with a byte here, and the reader after it. -/
def token (cs bytes : List Char) (reader : Reader) (byte : Char) : Checked (Token × Reader) := do
  if byte = '#' && !reader.lineHasCode then
    let opened : Reader := { reader with inDirective := true }
    opened.emit cs .code (reader.position + 1) true
  else
    let (kind, stop, closed) ← lexeme cs bytes byte reader.position
    reader.emit cs kind stop closed

end Reader

/-- The tokens from where the reader stands. -/
def scanFrom (cs bytes : List Char) : (steps : Nat) → Reader → Checked (List Token)
  | 0, reader => if reader.position < bytes.length then .error .steps else .ok []
  | steps + 1, reader =>
    if reader.position < bytes.length then do
      let byte ← item bytes reader.position
      if byte = '\n' then scanFrom cs bytes steps (← reader.newline bytes)
      else if Lexeme.isGap byte then
        scanFrom cs bytes steps { reader with position := reader.position + 1 }
      else
        let (tok, next) ← reader.token cs bytes byte
        let tokens ← scanFrom cs bytes steps next
        return tok :: tokens
    else .ok []

def scan (text : String) : Checked (List Token) :=
  let bytes := Text.bytes text.toList
  scanFrom text.toList bytes bytes.length .initial

/-- The bytes before a position end in a backslash as the characters do. -/
theorem lineContinues_eq {whole : List Char} (front : List Char) {back : List Char}
    (split : whole = front ++ back) :
    lineContinues whole front.length = .ok (ScanState.endsInBackslash front) := by
  induction front using List.reverseRecOn generalizing back with
  | nil => rfl
  | append_singleton front c ih =>
    have here : whole = front ++ c :: back := by simp [split]
    rw [List.length_append, List.length_singleton, lineContinues, item_split here rfl, ok_bind,
      ScanState.endsInBackslash_concat, ih here]
    split <;> rfl

theorem endsInBackslash_bytes (cs : List Char) :
    ScanState.endsInBackslash (bytes cs) = ScanState.endsInBackslash cs := by
  induction cs using List.reverseRecOn with
  | nil => rfl
  | append_singleton cs c ih =>
    have wideLast {c : Char} (wide : isWide c = true) (cs : List Char) :
        ScanState.endsInBackslash (cs ++ [c]) = false := by
      rw [ScanState.endsInBackslash_concat, if_neg (Text.ne_of_isWide wide rfl),
        beq_false_of_ne (Text.ne_of_isWide wide rfl)]
    rw [Text.bytes_append]
    cases wide : isWide c with
    | false =>
      rw [Text.bytes_cons wide, Text.bytes_nil, ScanState.endsInBackslash_concat, ih,
        ScanState.endsInBackslash_concat]
    | true =>
      rw [wideLast wide]
      have allWide := Text.isWide_of_mem_bytes wide
      rcases List.eq_nil_or_concat (bytes [c]) with empty | ⟨init, last, spelled⟩
      · obtain ⟨first, more, spelled, -⟩ := Text.bytes_singleton c
        rw [spelled] at empty
        cases empty
      · rw [spelled, List.concat_eq_append] at allWide ⊢
        rw [← List.append_assoc]
        exact wideLast (allWide last (by simp)) _

namespace Reader

/-- The reader that stands where a scan does. -/
def ofState (state : ScanState) : Reader :=
  ⟨state.offset, state.line, state.depth, state.parens, state.lineHasCode, state.inDirective⟩

variable {cs passed rest : List Char} {state : ScanState}

theorem newline_eq (sees : state.Sees passed) (whole : cs = passed ++ rest) :
    (ofState state).newline (bytes cs) = .ok (ofState state.newline) := by
  have split : bytes cs = bytes passed ++ bytes rest := by rw [whole, Text.bytes_append]
  have looked := lineContinues_eq (bytes passed) split
  rw [Text.length_bytes, ← sees.here.offset, endsInBackslash_bytes, ← sees.backslash] at looked
  rw [newline, ScanState.newline]
  cases inside : state.inDirective with
  | false => simp [ofState, inside]
  | true => simp [ofState, inside, looked]

theorem emit_eq {part : List Char} (here : state.At passed) (whole : cs = passed ++ (part ++ rest))
    (kind : TokenKind) (closed : Bool) :
    (ofState state).emit cs kind (byteLength passed + byteLength part) closed =
      .ok ((state.emit kind part closed).1, ofState (state.emit kind part closed).2) := by
  have text := cut_middle passed part rest
  rw [← whole, ← here.offset] at text
  rw [emit, ← here.offset]
  simp only [ofState, text, ok_bind]
  rfl

theorem token_eq {c first : Char} {kind : TokenKind} {more tail : List Char} {closed : Bool}
    (here : state.At passed) (whole : cs = passed ++ c :: (more ++ rest))
    (read : Lexeme.after c (more ++ rest) = (kind, more, closed))
    (spelled : bytes [c] = first :: tail) :
    (ofState state).token cs (bytes cs) first =
      .ok (((state.opened c).emit kind (c :: more) closed).1,
        ofState ((state.opened c).emit kind (c :: more) closed).2) := by
  have hashes : (first = '#') = (c = '#') := by
    obtain ⟨byte, others, spelledSame, kept⟩ := Text.bytes_singleton c
    obtain ⟨rfl, -⟩ := List.cons.inj (spelled.symm.trans spelledSame)
    rcases kept with ⟨rfl, -, -⟩ | ⟨wide, firstWide, -⟩
    · rfl
    · exact propext ⟨fun same => absurd same (Text.ne_of_isWide firstWide rfl),
        fun same => absurd same (Text.ne_of_isWide wide rfl)⟩
  have emitted := @emit_eq _ _ _ _ (c :: more) (here.opened c) whole kind closed
  have found := lexeme_eq whole spelled read
  have position : (ofState state).position = byteLength passed := here.offset
  simp only [token, hashes]
  split
  · rename_i hash
    obtain ⟨isHash, -⟩ := Bool.and_eq_true_iff.1 hash
    obtain rfl := of_decide_eq_true isHash
    obtain ⟨rfl, rfl, rfl⟩ : .code = kind ∧ [] = more ∧ true = closed := by
      simpa [Lexeme.after_hash] using read
    have opens : state.opened '#' = { state with inDirective := true } := if_pos hash
    have stop : (ofState state).position + 1 = byteLength passed + byteLength ['#'] := by
      rw [position]
      rfl
    rw [opens] at emitted ⊢
    rw [stop]
    exact emitted
  · rename_i hash
    have same : state.opened c = state := if_neg hash
    rw [same] at emitted ⊢
    rw [position, found, ok_bind]
    exact emitted

end Reader

variable {cs passed rest : List Char}

theorem scanFrom_atEnd {reader : Reader} (atEnd : (bytes cs).length ≤ reader.position)
    (steps : Nat) : scanFrom cs (bytes cs) steps reader = .ok [] := by
  cases steps <;> rw [scanFrom, if_neg (Nat.not_lt.2 atEnd)]

theorem scanFrom_succ {c first : Char} {tail : List Char} {reader : Reader}
    (whole : cs = passed ++ c :: rest) (position : reader.position = byteLength passed)
    (spelled : bytes [c] = first :: tail) (steps : Nat) :
    scanFrom cs (bytes cs) (steps + 1) reader =
      if first = '\n' then do scanFrom cs (bytes cs) steps (← reader.newline (bytes cs))
      else if Lexeme.isGap first then
        scanFrom cs (bytes cs) steps { reader with position := reader.position + 1 }
      else do
        let (tok, next) ← reader.token cs (bytes cs) first
        let tokens ← scanFrom cs (bytes cs) steps next
        return tok :: tokens := by
  have split : bytes cs = bytes passed ++ first :: (tail ++ bytes rest) := by
    rw [whole, Text.bytes_append, Text.bytes_cons_eq, spelled, List.cons_append]
  have length : (bytes passed).length = reader.position := by rw [Text.length_bytes, position]
  have inside : reader.position < (bytes cs).length := by
    rw [← length, split, List.length_append, List.length_cons]
    omega
  rw [scanFrom, if_pos inside, item_split split length]
  rfl

theorem scanFrom_eq {first last : ScanState} {tokens : List Token}
    (run : ScanState.Run first rest tokens last []) (sees : first.Sees passed)
    (whole : cs = passed ++ rest) {steps : Nat} (enough : rest.length ≤ steps) :
    scanFrom cs (bytes cs) steps (.ofState first) = .ok tokens := by
  generalize nothing : ([] : List Char) = left at run
  induction run generalizing passed steps with
  | done state rest =>
    subst nothing
    refine scanFrom_atEnd ?_ steps
    rw [whole, List.append_nil, Text.length_bytes]
    exact Nat.le_of_eq sees.here.offset.symm
  | @step first second third rest middle left front back head tail ih =>
    have position : (Reader.ofState first).position = byteLength passed := sees.here.offset
    obtain ⟨steps, rfl⟩ : ∃ fewer, steps = fewer + 1 := by
      refine ⟨steps - 1, ?_⟩
      cases head <;> rw [List.length_cons] at enough <;> omega
    cases head with
    | newline =>
      have later := ih sees.newline (by simp [whole]) (Nat.le_of_succ_le_succ enough) nothing
      rw [scanFrom_succ whole position (Text.bytes_cons rfl []), if_pos rfl,
        Reader.newline_eq sees whole, ok_bind, later]
      rfl
    | @gap c rest blank =>
      have later := ih (sees.gap blank) (by simp [whole]) (Nat.le_of_succ_le_succ enough) nothing
      have narrow := Lexeme.not_isWide_of_isSeparator (Lexeme.isSeparator_of_isGap blank)
      rw [scanFrom_succ whole position (Text.bytes_cons narrow []),
        if_neg (Lexeme.ne_newline_of_isGap blank), if_pos blank]
      exact later
    | @token c kind more closed rest solid read =>
      obtain ⟨byte, others, spelled, kept⟩ := Text.bytes_singleton c
      have solidByte : Lexeme.isSeparator byte = false := by
        rcases kept with ⟨rfl, -, -⟩ | ⟨-, wide, -⟩
        · exact solid
        · refine Bool.eq_false_iff.2 (fun separator => ?_)
          cases wide.symm.trans (Lexeme.not_isWide_of_isSeparator separator)
      obtain ⟨notNewline, notGap⟩ := Bool.or_eq_false_iff.1 solidByte
      have past : cs = (passed ++ c :: more) ++ middle := by simp [whole]
      have left : middle.length ≤ steps := by
        simp only [List.length_cons, List.length_append] at enough
        omega
      have later := ih (sees.emit solid kind more closed) past left nothing
      rw [scanFrom_succ whole position spelled, if_neg (ne_of_beq_false notNewline),
        if_neg (by rw [notGap]; exact Bool.false_ne_true),
        Reader.token_eq sees.here whole read spelled, ok_bind]
      simp only [later, ok_bind]
      rfl

theorem scan_eq (text : String) : scan text = .ok (CSurvey.scan text) := by
  obtain ⟨last, run⟩ := exists_run_scan text
  refine scanFrom_eq run .initial rfl ?_
  rw [Text.length_bytes]
  exact Text.length_le_byteLength _

end Checked

end CSurvey
