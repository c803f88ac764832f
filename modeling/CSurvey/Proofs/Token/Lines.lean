import CSurvey.Proofs.Text.Lines
import CSurvey.Proofs.Token.Layout

/-!
# Tokens and lines

The scanner counts line feeds as it reads; a line index holds the starts of
lines.  The two agree: a token begins on a line of the text, and the bytes of a
run of lines hold every token that begins and ends on them.  Lines also end
directives: what follows a directive begins on a later line.
-/

namespace CSurvey

namespace ScanState

theorem opened_inDirective {state : ScanState} (inside : state.inDirective = true) (c : Char) :
    (state.opened c).inDirective = true := by
  unfold opened
  split
  · rfl
  · exact inside

variable {first last : ScanState} {cs rest : List Char} {tokens : List Token}

theorem Run.le_line (run : Run first cs tokens last rest) {tok : Token} (member : tok ∈ tokens) :
    first.line ≤ tok.span.line := by
  induction run with
  | done => simp at member
  | step head tail ih =>
    cases head with
    | newline => exact Nat.le_of_succ_le (ih member)
    | gap => exact ih member
    | @token c kind more closed rest solid read =>
      rcases List.mem_cons.1 member with rfl | later
      · exact Nat.le_of_eq (opened_line ..).symm
      · have further := ih later
        simp only [emit, opened_line] at further
        omega

theorem Run.lt_line (run : Run first cs tokens last rest) (inside : first.inDirective = true)
    {tok : Token} (member : tok ∈ tokens) (outside : tok.directive = false) :
    first.line < tok.span.line := by
  induction run with
  | done => simp at member
  | @step first second third cs middle rest front back head tail ih =>
    cases head with
    | newline => exact tail.le_line member
    | gap => exact ih inside member
    | @token c kind more closed rest solid read =>
      have inside := opened_inDirective inside c
      rcases List.mem_cons.1 member with rfl | later
      · cases inside.symm.trans outside
      · have further := ih inside later
        simp only [emit, opened_line] at further
        omega

/-- What follows a directive begins on a later line than that on which the directive ends. -/
theorem Run.pairwise_directive (run : Run first cs tokens last rest) :
    tokens.Pairwise (fun earlier later => earlier.directive = true → later.directive = false →
      earlier.span.endLine < later.span.line) := by
  induction run with
  | done => exact .nil
  | step head tail ih =>
    cases head with
    | newline => exact ih
    | gap => exact ih
    | token rest solid read =>
      exact List.pairwise_cons.2 ⟨fun later member inside outside =>
        tail.lt_line inside member outside, ih⟩

end ScanState

variable {text : String} {tok : Token}

theorem pairwise_directive_scan (text : String) :
    (scan text).Pairwise (fun earlier later => earlier.directive = true →
      later.directive = false → earlier.span.endLine < later.span.line) := by
  obtain ⟨last, run⟩ := exists_run_scan text
  exact run.pairwise_directive

theorem line_pos_of_mem_scan (member : tok ∈ scan text) : 1 ≤ tok.span.line := by
  have bound := (layout_scan text).le_line member
  omega

theorem line_le_endLine_of_mem_scan (member : tok ∈ scan text) :
    tok.span.line ≤ tok.span.endLine := by
  obtain ⟨front, part, back, -, -, -, span⟩ := (layout_scan text).exists_part member
  simp only [span, Span.cover, List.count_append]
  omega

theorem start_lt_stop_of_mem_scan (member : tok ∈ scan text) :
    tok.span.start < tok.span.stop := by
  obtain ⟨front, part, back, -, -, nonempty, span⟩ := (layout_scan text).exists_part member
  have longer := Text.byteLength_pos nonempty
  simp only [span, Span.cover, Text.byteLength_append]
  omega

theorem pairwise_start_scan (text : String) :
    (scan text).Pairwise (fun first second => first.span.start < second.span.start) := by
  refine (layout_scan text).pairwise_stop_le_start.imp_of_mem ?_
  intro first second member _ apart
  exact Nat.lt_of_lt_of_le (start_lt_stop_of_mem_scan member) apart

theorem stop_le_byteLength_of_mem_scan (member : tok ∈ scan text) :
    tok.span.stop ≤ Text.byteLength text.toList := by
  obtain ⟨front, part, back, eq, -, -, span⟩ := (layout_scan text).exists_part member
  simp only [span, Span.cover, eq, Text.byteLength_append, List.nil_append]
  omega

/-- Tokens that stand apart between two bytes are at most as many as the bytes between. -/
theorem length_le_of_pairwise {tokens : List Token} {first last : Nat}
    (apart : tokens.Pairwise (fun one other => one.span.stop ≤ other.span.start))
    (inside : ∀ tok ∈ tokens,
      first ≤ tok.span.start ∧ tok.span.start < tok.span.stop ∧ tok.span.stop ≤ last)
    (ordered : first ≤ last) : tokens.length ≤ last - first := by
  induction tokens generalizing first with
  | nil => exact Nat.zero_le _
  | cons tok rest ih =>
    obtain ⟨after, apart⟩ := List.pairwise_cons.1 apart
    obtain ⟨⟨begins, long, ends⟩, inside⟩ := List.forall_mem_cons.1 inside
    have later := ih apart (fun other member => ⟨after other member, (inside other member).2⟩) ends
    rw [List.length_cons]
    omega

theorem length_scan_le (text : String) : (scan text).length ≤ Text.byteLength text.toList :=
  length_le_of_pairwise (layout_scan text).pairwise_stop_le_start
    (fun _ member => ⟨Nat.zero_le _, start_lt_stop_of_mem_scan member,
      stop_le_byteLength_of_mem_scan member⟩) (Nat.zero_le _)

/-- A token begins on a line of the text; only its end can lie past the last line. -/
theorem line_le_count_of_mem_scan (member : tok ∈ scan text) :
    tok.span.line ≤ (LineIndex.ofText text).count := by
  obtain ⟨front, part, back, eq, -, nonempty, span⟩ := (layout_scan text).exists_part member
  have frontPrefix : front <+: text.toList := ⟨part ++ back, eq.symm⟩
  have inside := Text.firstLines_isPrefix_of_le frontPrefix (Nat.le_refl (front.count '\n'))
  have proper : Text.firstLines (front.count '\n') text.toList ≠ text.toList := by
    intro whole
    have lengths := inside.length_le
    rw [whole, eq] at lengths
    have positive := List.length_pos_iff.2 nonempty
    simp only [List.length_append] at lengths
    omega
  have less := LineIndex.lt_count_iff.2 proper
  simp only [span, Span.cover, List.nil_append, LineIndex.ofText]
  omega

/-- The bytes of the lines `first` to `last` hold each token that begins on or after the first
of them and ends on or before the last of them, or before the end of the text if no line comes
after them. -/
theorem linesRange_of_mem_scan (member : tok ∈ scan text) {first last : Nat}
    (positive : 1 ≤ first) (begins : first ≤ tok.span.line)
    (ends : tok.span.endLine ≤ last ∨ (LineIndex.ofText text).count ≤ last)
    (ordered : first ≤ last) :
    ((LineIndex.ofText text).linesRange first last).1 ≤ tok.span.start ∧
      tok.span.stop ≤ ((LineIndex.ofText text).linesRange first last).2 := by
  obtain ⟨front, part, back, eq, -, -, span⟩ := (layout_scan text).exists_part member
  have frontPrefix : front <+: text.toList := ⟨part ++ back, eq.symm⟩
  have wholePrefix : front ++ part <+: text.toList := ⟨back, by rw [eq, List.append_assoc]⟩
  simp only [span, Span.cover, List.nil_append] at begins ends ⊢
  rw [LineIndex.ofText, LineIndex.linesRange_eq _ positive (Nat.le_trans positive ordered)]
  refine ⟨Text.byteLength_le_of_isPrefix ?_, Text.byteLength_le_of_isPrefix ?_⟩
  · exact Text.firstLines_isPrefix_of_le frontPrefix (by omega)
  · rcases ends with within | atEnd
    · exact Text.isPrefix_firstLines wholePrefix (by omega)
    · have further := Text.firstLines_isPrefix_firstLines text.toList atEnd
      rw [LineIndex.ofText, LineIndex.firstLines_count] at further
      exact wholePrefix.trans further

end CSurvey
