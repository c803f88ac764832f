import CSurvey.Editor.Diagnostic
import CSurvey.Proofs.Analysis.Attribution
import CSurvey.Proofs.Definition.Snippet
import CSurvey.Text.Blank
import Mathlib.Data.List.DropRight
import Mathlib.Data.List.Induction

/-!
# Positions of an editor

An editor counts the lines of a text by its line feeds, so that a line feed at the very
end opens one more line, which is empty.  The line index knows no such line.  A position
between two characters is found on the right line by its start in the index, and the rest
of the line up to it is counted.  The end of a text after a line feed is put on the line
of that line feed, one unit past its end.
-/

namespace CSurvey

namespace Text

/-- What follows the last line feed. -/
def lastLine (cs : List Char) : List Char :=
  cs.rtakeWhile (· ≠ '\n')

theorem lastLine_newline (cs : List Char) : lastLine (cs ++ ['\n']) = [] :=
  List.rtakeWhile_concat_neg _ _ _ (by simp)

theorem lastLine_concat {c : Char} (other : c ≠ '\n') (cs : List Char) :
    lastLine (cs ++ [c]) = lastLine cs ++ [c] :=
  List.rtakeWhile_concat_pos _ _ _ (by simpa using other)

theorem firstLines_newline (front back : List Char) :
    firstLines (front.count '\n' + 1) (front ++ '\n' :: back) = front ++ ['\n'] := by
  induction front with
  | nil => rw [List.nil_append, List.count_nil, firstLines_cons_newline, firstLines_zero]; rfl
  | cons c front ih =>
    by_cases newline : c = '\n'
    · subst newline
      rw [List.cons_append, List.count_cons_self, firstLines_cons_newline, ih, List.cons_append]
    · rw [List.cons_append, List.count_cons_of_ne newline, firstLines_cons newline, ih,
        List.cons_append]

/-- The lines that a beginning of a text completes, and what it has of the next one. -/
theorem firstLines_append_lastLine (front back : List Char) :
    firstLines (front.count '\n') (front ++ back) ++ lastLine front = front := by
  induction front using List.reverseRecOn generalizing back with
  | nil => rw [List.count_nil, firstLines_zero]; rfl
  | append_singleton front c ih =>
    rw [List.append_assoc, List.singleton_append]
    by_cases newline : c = '\n'
    · subst newline
      rw [List.count_append, List.count_singleton_self, firstLines_newline, lastLine_newline,
        List.append_nil]
    · have same : (front ++ [c]).count '\n' = front.count '\n' := by simp [newline]
      rw [same, lastLine_concat newline, ← List.append_assoc, ih]

theorem splitWhere_newline (front back : List Char) :
    splitWhere (· == '\n') (front ++ '\n' :: back) =
      splitWhere (· == '\n') front ++ splitWhere (· == '\n') back := by
  induction front with
  | nil => simp [splitWhere]
  | cons c front ih =>
    rw [List.cons_append, splitWhere, splitWhere, ih]
    cases pieces : splitWhere (· == '\n') front with
    | nil => exact absurd pieces (splitWhere_ne_nil _ front)
    | cons piece pieces => split <;> rfl

theorem length_splitWhere (cs : List Char) :
    (splitWhere (· == '\n') cs).length = cs.count '\n' + 1 := by
  induction cs with
  | nil => rfl
  | cons c rest ih =>
    rw [splitWhere]
    cases pieces : splitWhere (· == '\n') rest with
    | nil => exact absurd pieces (splitWhere_ne_nil _ rest)
    | cons piece others =>
      rw [pieces] at ih
      by_cases newline : c = '\n' <;> simp_all

theorem head?_splitWhere (cs : List Char) :
    (splitWhere (· == '\n') cs)[0]? = some (cs.takeWhile (· ≠ '\n')) := by
  induction cs with
  | nil => rfl
  | cons c rest ih =>
    rw [splitWhere]
    cases pieces : splitWhere (· == '\n') rest with
    | nil => exact absurd pieces (splitWhere_ne_nil _ rest)
    | cons piece others =>
      rw [pieces] at ih
      by_cases newline : c = '\n' <;> simp_all

/-- The line on which a beginning of a text ends. -/
theorem getElem?_splitWhere (front back : List Char) :
    (splitWhere (· == '\n') (front ++ back))[front.count '\n']? =
      some (lastLine front ++ back.takeWhile (· ≠ '\n')) := by
  induction front using List.reverseRecOn generalizing back with
  | nil => exact head?_splitWhere back
  | append_singleton front c ih =>
    rw [List.append_assoc, List.singleton_append]
    by_cases newline : c = '\n'
    · subst newline
      have length := length_splitWhere front
      rw [List.count_append, List.count_singleton_self, splitWhere_newline, lastLine_newline,
        List.getElem?_append_right (by omega), length, Nat.sub_self, head?_splitWhere,
        List.nil_append]
    · have same : (front ++ [c]).count '\n' = front.count '\n' := by simp [newline]
      rw [same, lastLine_concat newline, ih, List.takeWhile_cons_of_pos (by simpa using newline),
        List.append_assoc, List.singleton_append]

@[simp]
theorem unitLength_append (front back : List Char) :
    unitLength (front ++ back) = unitLength front + unitLength back := by
  simp [unitLength]

theorem unitLength_le_byteLength (cs : List Char) : unitLength cs ≤ byteLength cs := by
  induction cs with
  | nil => exact Nat.le_refl 0
  | cons c rest ih =>
    have units : unitsOf c ≤ c.utf8Size := by
      have positive := c.utf8Size_pos
      unfold unitsOf
      split
      · exact positive
      · rename_i big
        have wide : c.utf8Size ≠ 1 := by
          rw [Ne, Char.utf8Size_eq_one_iff, UInt32.le_iff_toNat_le]
          change ¬ c.toNat ≤ 127
          omega
        omega
    change unitsOf c + unitLength rest ≤ _
    rw [byteLength_cons]
    omega

theorem lastLine_suffix (cs : List Char) : lastLine cs <:+ cs :=
  List.rtakeWhile_suffix _ _

end Text

namespace LineIndex

open Text

/-- All later lines of a text start before its end, one after each line feed but the last byte. -/
theorem countP_laterStarts_concat (offset : Nat) (front : List Char) (c : Char) :
    (laterStarts offset (front ++ [c])).countP (· ≤ offset + byteLength (front ++ [c])) =
      front.count '\n' := by
  induction front generalizing offset with
  | nil => simp [laterStarts]
  | cons d front ih =>
    have rest := ih (offset + d.utf8Size)
    have nonempty : (front ++ [c]).isEmpty = false := by simp
    rw [Nat.add_assoc] at rest
    rw [List.cons_append, laterStarts, byteLength_cons]
    by_cases newline : d = '\n'
    · subst newline
      rw [if_pos (by simp [nonempty]), List.countP_cons_of_pos (by simp), rest, List.count_cons_self]
    · rw [if_neg (by simp [newline]), rest, List.count_cons_of_ne newline]

/-- The end of a text stands on the line of its last character. -/
theorem lineOf_concat (front : List Char) (c : Char) :
    (ofChars (front ++ [c])).lineOf (byteLength (front ++ [c])) = 1 + front.count '\n' := by
  have later := countP_laterStarts_concat 0 front c
  have nonempty : (front ++ [c]).isEmpty = false := by simp
  rw [Nat.zero_add] at later
  rw [lineOf, ofChars, nonempty, if_neg Bool.false_ne_true, List.countP_cons_of_pos (by simp), later]
  omega

end LineIndex

namespace Position

open Text

/-- The position right after some characters: the line feeds among them, and the units after the
last one. -/
def after (front : List Char) : Position :=
  ⟨front.count '\n', unitLength (lastLine front)⟩

/-- The line and the character as they are counted, in 32-bit words. -/
def wrapped (position : Position) : Position :=
  ⟨position.line % wordSize, position.character % wordSize⟩

theorem wrapped_eq_self {position : Position} :
    position.wrapped = position ↔ position.line < wordSize ∧ position.character < wordSize := by
  have positive : 0 < wordSize := by decide
  rw [wrapped, Position.mk.injEq, Nat.mod_eq_iff_lt (Nat.ne_of_gt positive),
    Nat.mod_eq_iff_lt (Nat.ne_of_gt positive)]

/-- The position is on a line of the text, at its end at the latest.  Lines stand between line
feeds. -/
def Within (cs : List Char) (position : Position) : Prop :=
  ∃ line, (splitWhere (· == '\n') cs)[position.line]? = some line ∧
    position.character ≤ unitLength line

instance (cs : List Char) (position : Position) : Decidable (position.Within cs) :=
  decidable_of_iff (((splitWhere (· == '\n') cs)[position.line]?).any
    (fun line => position.character ≤ unitLength line) = true) (by
      simp [Within, Option.any_eq_true])

theorem within_after (front back : List Char) : (after front).Within (front ++ back) :=
  ⟨_, getElem?_splitWhere front back, by simp [after]⟩

theorem not_within_past_end (front : List Char) :
    ¬ Within (front ++ ['\n']) ⟨(after front).line, (after front).character + 1⟩ := by
  rintro ⟨line, found, inside⟩
  obtain rfl := Option.some.inj ((getElem?_splitWhere front ['\n']).symm.trans found)
  rw [after, List.takeWhile_cons_of_neg (by simp), List.append_nil] at inside
  exact Nat.not_succ_le_self _ inside

theorem after_le_byteLength (front : List Char) :
    (after front).line ≤ byteLength front ∧ (after front).character ≤ byteLength front := by
  refine ⟨List.count_le_length.trans (length_le_byteLength front), ?_⟩
  obtain ⟨before, eq⟩ := lastLine_suffix front
  have bounded := unitLength_le_byteLength (lastLine front)
  have whole := congrArg byteLength eq
  rw [byteLength_append] at whole
  simp only [after]
  omega

end Position

namespace Diagnostic

open Text

/-- An offset that is put on the line that it is on gets its position, in 32-bit words. -/
theorem positionOf_of_lineOf {front back : List Char}
    (line : (LineIndex.ofChars (front ++ back)).lineOf (byteLength front) = 1 + front.count '\n') :
    positionOf (front ++ back) (LineIndex.ofChars (front ++ back)) (byteLength front) =
      (Position.after front).wrapped := by
  have completes := firstLines_append_lastLine front back
  have sliced := slice_of_append (firstLines (front.count '\n') (front ++ back)) (lastLine front)
    back (by rw [← List.append_assoc, completes])
  rw [completes] at sliced
  rw [positionOf, line, Nat.add_comm, LineIndex.lineRange_succ, sliced, Nat.add_sub_cancel]
  rfl

/-- Between two characters, and at the end of a last line without line feed, an offset gets its
position. -/
theorem positionOf_eq {front back : List Char} (goesOn : back = [] → front.getLast? ≠ some '\n') :
    positionOf (front ++ back) (LineIndex.ofChars (front ++ back)) (byteLength front) =
      (Position.after front).wrapped := by
  apply positionOf_of_lineOf
  by_cases nonempty : back = []
  · subst nonempty
    rw [List.append_nil]
    rcases List.eq_nil_or_concat' front with rfl | ⟨init, last, rfl⟩
    · rfl
    · have other : last ≠ '\n' := by simpa using goesOn rfl
      rw [LineIndex.lineOf_concat, List.count_append]
      simp [other]
  · exact LineIndex.lineOf_byteLength front nonempty

theorem positionOf_end (front : List Char) :
    positionOf (front ++ ['\n']) (LineIndex.ofChars (front ++ ['\n']))
        (byteLength (front ++ ['\n'])) =
      Position.wrapped ⟨(Position.after front).line, (Position.after front).character + 1⟩ := by
  have completes := firstLines_append_lastLine front ['\n']
  have sliced := slice_of_append (firstLines (front.count '\n') (front ++ ['\n']))
    (lastLine front ++ ['\n']) [] (by rw [List.append_nil, ← List.append_assoc, completes])
  rw [← List.append_assoc, completes] at sliced
  rw [positionOf, LineIndex.lineOf_concat, Nat.add_comm, LineIndex.lineRange_succ, sliced,
    Nat.add_sub_cancel, unitLength_append]
  rfl

/-- Where a text goes on, or ends without a line feed. -/
theorem positionOf_eq_after_iff {front back : List Char} :
    positionOf (front ++ back) (LineIndex.ofChars (front ++ back)) (byteLength front) =
        Position.after front ↔
      (back = [] → front.getLast? ≠ some '\n') ∧
        (Position.after front).line < Position.wordSize ∧
        (Position.after front).character < Position.wordSize := by
  by_cases goesOn : back = [] → front.getLast? ≠ some '\n'
  · rw [positionOf_eq goesOn, Position.wrapped_eq_self, and_iff_right goesOn]
  · refine iff_of_false (fun same => ?_) (fun right => goesOn right.1)
    simp only [not_forall, not_not] at goesOn
    obtain ⟨rfl, ends⟩ := goesOn
    obtain ⟨init, rfl⟩ := List.getLast?_eq_some_iff.1 ends
    rw [List.append_nil, positionOf_end] at same
    -- The line that is given is not after the last line feed.
    have lines := congrArg Position.line same
    have below : init.count '\n' % Position.wordSize ≤ init.count '\n' := Nat.mod_le _ _
    simp only [Position.wrapped, Position.after, List.count_append, List.count_singleton_self]
      at lines
    omega

variable {source : Source} {front back : List Char}

/-- In a text of less than 2³² bytes, only the end after a line feed is put past its line. -/
theorem within_positionOf_iff (small : source.size < Position.wordSize)
    (whole : source.chars = front ++ back) :
    (positionOf source.chars source.lines (byteLength front)).Within source.chars ↔
      (back = [] → front.getLast? ≠ some '\n') := by
  have index : source.lines = LineIndex.ofChars (front ++ back) := by
    rw [← whole]
    rfl
  have total : byteLength (front ++ back) < Position.wordSize := by
    rw [← whole]
    exact small
  rw [index, whole]
  by_cases goesOn : back = [] → front.getLast? ≠ some '\n'
  · have bounds := Position.after_le_byteLength front
    rw [byteLength_append] at total
    rw [positionOf_eq goesOn, Position.wrapped_eq_self.2 ⟨by omega, by omega⟩]
    exact iff_of_true (Position.within_after front back) goesOn
  · refine iff_of_false ?_ goesOn
    simp only [not_forall, not_not] at goesOn
    obtain ⟨rfl, ends⟩ := goesOn
    obtain ⟨init, rfl⟩ := List.getLast?_eq_some_iff.1 ends
    have bounds := Position.after_le_byteLength init
    rw [List.append_nil, byteLength_append] at total
    have feed : byteLength ['\n'] = 1 := rfl
    have fits : (Position.after init).line < Position.wordSize ∧
        (Position.after init).character + 1 < Position.wordSize := by omega
    rw [List.append_nil, positionOf_end, Position.wrapped_eq_self.2 fits]
    exact Position.not_within_past_end init

/-- Both ends of the range are on lines of the text, at their ends at the latest. -/
def FitsLines (cs : List Char) (diagnostic : Diagnostic) : Prop :=
  diagnostic.range.start.Within cs ∧ diagnostic.range.stop.Within cs

end Diagnostic

namespace Analyzer

variable {analyzer : Analyzer} {source : Source}

theorem exists_scope_of_mem_findings {finding : Finding}
    (member : finding ∈ (analyzer.analysis source).findings) :
    ∃ scope : Scope, finding ∈
      scope.findings analyzer.risk source (analyzer.analysis source).functions := by
  rw [analyzer.findings_eq source] at member
  rcases List.mem_append.1 member with inBody | outside
  · obtain ⟨record, -, found⟩ := List.mem_flatMap.1 inBody
    exact ⟨_, found⟩
  · exact ⟨_, outside⟩

theorem exists_token_of_mem_findings {finding : Finding}
    (member : finding ∈ (analyzer.analysis source).findings) :
    ∃ tok ∈ scan source.text, tok.span.start = finding.span.start := by
  obtain ⟨scope, found⟩ := exists_scope_of_mem_findings member
  obtain ⟨rule, -, isMatch, -⟩ := RiskTable.exists_rule_of_mem_evaluate found
  obtain ⟨tok, inScope, start⟩ := RiskMatch.exists_start_of_mem_spans isMatch
  have kept := (scope.tokensOf_sublist _ _).subset inScope
  exact ⟨tok, (mem_significant.1 kept).1, start⟩

theorem exists_token_of_mem_functions {record : FunctionRecord}
    (member : record ∈ (analyzer.analysis source).functions) :
    ∃ tok ∈ scan source.text, tok.span.start = record.span.start := by
  obtain ⟨site, front, back, formed, whole, -, same⟩ := exists_site member
  refine ⟨site.first, ?_, ?_⟩
  · have kept : site.first ∈ significant (scan source.text) := by
      simp [whole, site.first_mem_tokens]
    exact (mem_significant.1 kept).1
  · rw [← (formed.record_begins source.chars 0).1, same]

end Analyzer

namespace Diagnostic

open Text

variable {analyzer : Analyzer} {source : Source}

theorem within_start {tok : Token} (member : tok ∈ scan source.text)
    (small : source.size < Position.wordSize) :
    (positionOf source.chars source.lines tok.span.start).Within source.chars := by
  obtain ⟨⟨front, back, whole, start⟩, -⟩ := fits_of_mem_scan member
  rw [← start, within_positionOf_iff small whole]
  rintro rfl
  have long := start_lt_stop_of_mem_scan member
  have bounded := stop_le_byteLength_of_mem_scan member
  rw [whole, List.append_nil] at bounded
  omega

/-- Only a finding that ends with a line feed at the end of the text reaches past its line. -/
theorem fitsLines_ofFinding_iff {finding : Finding}
    (member : finding ∈ (analyzer.analysis source).findings)
    (small : source.size < Position.wordSize) :
    (ofFinding source.chars source.lines finding).FitsLines source.chars ↔
      (finding.span.stop = source.size → source.chars.getLast? ≠ some '\n') := by
  obtain ⟨tok, isToken, start⟩ := Analyzer.exists_token_of_mem_findings member
  obtain ⟨scope, found⟩ := Analyzer.exists_scope_of_mem_findings member
  obtain ⟨before, part, back, whole, -, -, stop⟩ := Scope.quotes_of_mem_findings found
  have begins := within_start isToken small
  rw [start] at begins
  have atEnd : finding.span.stop = source.size ↔ back = [] := by
    rw [stop, Source.size, whole, ← List.append_assoc, byteLength_append (before ++ part) back,
      Nat.left_eq_add, byteLength_eq_zero]
  have ends : (positionOf source.chars source.lines finding.span.stop).Within source.chars ↔
      (back = [] → source.chars.getLast? ≠ some '\n') := by
    rw [stop, within_positionOf_iff small (whole.trans (List.append_assoc ..).symm)]
    refine forall_congr' (fun nothing => ?_)
    rw [Source.chars, whole, nothing, List.append_nil]
  rw [atEnd]
  exact (and_iff_right begins).trans ends

theorem fitsLines_ofFunction {record : FunctionRecord} {cycles : List Cycle}
    {diagnostic : Diagnostic} (member : record ∈ (analyzer.analysis source).functions)
    (small : source.size < Position.wordSize)
    (shown : diagnostic ∈ ofFunction source.chars source.lines cycles record) :
    diagnostic.finding = none ∧ diagnostic.FitsLines source.chars := by
  obtain ⟨tok, isToken, start⟩ := Analyzer.exists_token_of_mem_functions member
  have here := within_start isToken small
  rw [start] at here
  have atHeader (severity : DiagnosticSeverity) (code message : String) :
      (atHeader source.chars source.lines record severity code message).FitsLines source.chars :=
    ⟨here, here⟩
  rw [ofFunction] at shown
  rcases List.mem_append.1 shown with cutOff | cyclic
  · split at cutOff
    · obtain rfl := List.mem_singleton.1 cutOff
      exact ⟨rfl, atHeader ..⟩
    · cases cutOff
  · split at cyclic
    · obtain rfl := List.mem_singleton.1 cyclic
      exact ⟨rfl, atHeader ..⟩
    · cases cyclic

/-- An offset between two characters gets the position right after the characters before it, if and
only if it is not the end of a text after a line feed and the position is counted in 32-bit words.
For chunks of at least one line and a text of less than 2³² bytes, the ranges of exactly those
findings reach past their lines that end with a line feed at the end of the text. -/
theorem positions_right_iff (analyzer : Analyzer) (source : Source)
    (positive : 1 ≤ analyzer.maxChunkSize) :
    (∀ front back, source.chars = front ++ back →
      (positionOf source.chars source.lines (byteLength front) = Position.after front ↔
        (back = [] → front.getLast? ≠ some '\n') ∧
          (Position.after front).line < Position.wordSize ∧
          (Position.after front).character < Position.wordSize)) ∧
    ∃ analysis, analyzer.analyze source = .ok analysis ∧
      (source.size < Position.wordSize →
        ∀ diagnostic ∈ ofAnalysis source analysis,
          (diagnostic.FitsLines source.chars ↔
            ∀ finding ∈ diagnostic.finding, finding.span.stop = source.size →
              source.chars.getLast? ≠ some '\n')) := by
  refine ⟨fun front back whole => ?_, _, analyzer.analyze_eq source positive,
    fun small diagnostic member => ?_⟩
  · have index : source.lines = LineIndex.ofChars (front ++ back) := by
      rw [← whole]
      rfl
    rw [index, whole]
    exact positionOf_eq_after_iff
  · rcases List.mem_append.1 member with ofFinding | ofFunction
    · obtain ⟨finding, found, rfl⟩ := List.mem_map.1 ofFinding
      rw [fitsLines_ofFinding_iff found small]
      simp [Diagnostic.ofFinding]
    · obtain ⟨record, isFunction, shown⟩ := List.mem_flatMap.1 ofFunction
      obtain ⟨noFinding, fits⟩ := fitsLines_ofFunction isFunction small shown
      exact iff_of_true fits (by simp [noFinding])

/-- A call after a comment with a character of two units, on the second line. -/
theorem positions_right_iff_wide :
    let analyzer : Analyzer := ⟨600, RiskTable.builtin, Thresholds.standard⟩
    let source := Source.ofText "int a;\n/*😀*/ gets(a);"
    1 ≤ analyzer.maxChunkSize ∧ ∃ analysis, analyzer.analyze source = .ok analysis ∧
      (ofAnalysis source analysis).map Diagnostic.range = [⟨⟨1, 7⟩, ⟨1, 11⟩⟩] ∧
      ∀ diagnostic ∈ ofAnalysis source analysis, diagnostic.FitsLines source.chars := by
  intro analyzer source
  have positive : 1 ≤ analyzer.maxChunkSize := by decide
  obtain ⟨-, analysis, analyzed, fits⟩ := positions_right_iff analyzer source positive
  refine ⟨positive, analysis, analyzed, ?_, fun diagnostic member => ?_⟩
  · rw [analyzer.analyze_eq source positive] at analyzed
    obtain rfl := Except.ok.inj analyzed
    decide +kernel
  · exact (fits (by decide +kernel) diagnostic member).2 (fun _ _ _ => by decide +kernel)

/-- The end of a text after a line feed is put on the line before it, and so is the end of a
finding there: the call is open at the end of the text, and its last token is a literal with an
escaped line feed. -/
theorem position_past_last_line :
    let analyzer : Analyzer := ⟨600, RiskTable.builtin, Thresholds.standard⟩
    let source := Source.ofText "printf(a, \"\\\n"
    positionOf source.chars source.lines source.size = ⟨0, 13⟩ ∧
      Position.after source.chars = ⟨1, 0⟩ ∧
      ∃ analysis, analyzer.analyze source = .ok analysis ∧
        (ofAnalysis source analysis).map Diagnostic.range = [⟨⟨0, 0⟩, ⟨0, 13⟩⟩] ∧
        ∀ diagnostic ∈ ofAnalysis source analysis, ¬ diagnostic.FitsLines source.chars := by
  intro analyzer source
  have shown : (ofAnalysis source (analyzer.analysis source)).map Diagnostic.range =
      [⟨⟨0, 0⟩, ⟨0, 13⟩⟩] := by
    decide +kernel
  refine ⟨by decide +kernel, by decide +kernel, _, analyzer.analyze_eq source (by decide), shown,
    ?_⟩
  rintro diagnostic member ⟨-, stop⟩
  have range : diagnostic.range = ⟨⟨0, 0⟩, ⟨0, 13⟩⟩ := by
    simpa [shown] using List.mem_map_of_mem (f := Diagnostic.range) member
  rw [range] at stop
  exact absurd stop (by decide +kernel)

end Diagnostic

end CSurvey
