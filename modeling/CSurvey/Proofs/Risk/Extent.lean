import CSurvey.Risk.Match

/-!
# Where matches begin and end

A match covers one token, or all from one token to another.  So whatever holds of
the spans of tokens and is kept when spans are joined holds of matches.

A match begins at a token: at the place that its pattern is tried at, or at the
token before it.  So the matches of one pattern come in the order of the text,
and no two of them begin at one token.
-/

namespace CSurvey

namespace Place

variable {tokens : List Token} {place : Place}

theorem mem_of_mem_all (member : place ∈ all tokens) :
    (∀ tok ∈ place.before, tok ∈ tokens) ∧ (∀ tok ∈ place.here :: place.after, tok ∈ tokens) := by
  rw [← tokens_of_mem_all member, Place.tokens]
  exact ⟨fun tok inside => by simp [inside], fun tok inside => List.mem_append_right _ inside⟩

end Place

theorem Arguments.close_mem_collect (level : Nat) (args : List (List Token))
    (current : List Token) (last : Token) (tokens : List Token) :
    (collect level args current last tokens).close ∈ last :: tokens := by
  fun_induction collect level args current last tokens with
  | case1 => exact List.mem_cons_self ..
  | case2 level args current last tok rest opens ih => exact List.mem_cons_of_mem _ ih
  | case3 => simp
  | case4 level args current last tok rest notOpen closes inner ih =>
    exact List.mem_cons_of_mem _ ih
  | case5 level args current last tok rest notOpen notClose comma ih =>
    exact List.mem_cons_of_mem _ ih
  | case6 level args current last tok rest notOpen notClose other ih =>
    exact List.mem_cons_of_mem _ ih

theorem Place.close_mem_arguments (place : Place) :
    place.arguments.close ∈ place.here :: place.after := by
  obtain ⟨before, here, after⟩ := place
  cases after with
  | nil => exact List.mem_cons_self ..
  | cons opening rest => exact List.mem_cons_of_mem _ (Arguments.close_mem_collect ..)

namespace Bracketed

variable {opening closing : String} {tokens : List Token} {group : Bracketed}

theorem mem_of_findClose {level : Nat} {inner : List Token}
    (found : findClose opening closing level inner tokens = some group) :
    group.close ∈ tokens ∧ ∀ tok ∈ group.rest, tok ∈ tokens := by
  fun_induction findClose opening closing level inner tokens with
  | case1 => cases found
  | case2 level inner tok rest opens ih =>
    exact ⟨List.mem_cons_of_mem _ (ih found).1,
      fun other member => List.mem_cons_of_mem _ ((ih found).2 other member)⟩
  | case3 level inner tok rest notOpen closes last =>
    obtain rfl := Option.some.inj found
    exact ⟨List.mem_cons_self .., fun other member => List.mem_cons_of_mem _ member⟩
  | case4 level inner tok rest notOpen closes further ih =>
    exact ⟨List.mem_cons_of_mem _ (ih found).1,
      fun other member => List.mem_cons_of_mem _ ((ih found).2 other member)⟩
  | case5 level inner tok rest notOpen notClose ih =>
    exact ⟨List.mem_cons_of_mem _ (ih found).1,
      fun other member => List.mem_cons_of_mem _ ((ih found).2 other member)⟩

theorem mem_of_ofTokens? (found : ofTokens? opening closing tokens = some group) :
    group.close ∈ tokens ∧ ∀ tok ∈ group.rest, tok ∈ tokens := by
  cases tokens with
  | nil => cases found
  | cons tok rest =>
    rw [ofTokens?] at found
    split at found
    · have inRest := mem_of_findClose found
      exact ⟨List.mem_cons_of_mem _ inRest.1,
        fun other member => List.mem_cons_of_mem _ (inRest.2 other member)⟩
    · cases found

end Bracketed

namespace RiskMatch

theorem mem_of_computedAddress? {groups : Nat} {tokens : List Token} {close : Token}
    (found : computedAddress? groups tokens = some close) : close ∈ tokens := by
  induction groups generalizing tokens with
  | zero => cases found
  | succ groups ih =>
    rw [computedAddress?] at found
    split at found
    · cases found
    · rename_i group first
      have inside := Bracketed.mem_of_ofTokens? first
      split at found
      · obtain rfl := Option.some.inj found
        exact inside.1
      · exact inside.2 _ (ih found)

section Kept

variable {fits : Span → Prop} {tokens : List Token}
  (joins : ∀ first second : Span, fits first → fits second → fits (first.join second))
  (all : ∀ tok ∈ tokens, fits tok.span)
include joins all

theorem fits_callSpan {place : Place} (member : place ∈ Place.all tokens) :
    fits (callSpan place place.arguments) := by
  have inside := (Place.mem_of_mem_all member).2
  exact joins _ _ (all _ (inside _ (List.mem_cons_self ..)))
    (all _ (inside _ place.close_mem_arguments))

theorem fits_pointerArithmetic? {place : Place} (member : place ∈ Place.all tokens) {span : Span}
    (found : pointerArithmetic? place = some span) : fits span := by
  have inside := (Place.mem_of_mem_all member).2
  rw [pointerArithmetic?] at found
  split at found
  · obtain ⟨close, computed, rfl⟩ := Option.map_eq_some_iff.1 found
    exact joins _ _ (all _ (inside _ (List.mem_cons_self ..)))
      (all _ (inside _ (List.mem_cons_of_mem _ (mem_of_computedAddress? computed))))
  · cases found

theorem fits_indexedWrite? {place : Place} (member : place ∈ Place.all tokens) {span : Span}
    (found : indexedWrite? place = some span) : fits span := by
  obtain ⟨behind, ahead⟩ := Place.mem_of_mem_all member
  rw [indexedWrite?] at found
  split at found
  · cases found
  rename_i previous before eq
  split at found
  · split at found
    · cases found
    rename_i index isIndex
    split at found
    · obtain rfl := Option.some.inj found
      exact joins _ _ (all _ (behind _ (by simp [eq])))
        (all _ (ahead _ (Bracketed.mem_of_ofTokens? isIndex).1))
    · cases found
  · cases found

/-- What holds of the spans of tokens and is kept by joining holds of the spans of matches. -/
theorem fits_of_mem_spans (pattern : RiskPattern) {span : Span}
    (member : span ∈ spans pattern tokens) : fits span := by
  have here {place : Place} (inCalls : place ∈ callPlaces tokens) : fits place.here.span :=
    all _ ((Place.mem_of_mem_all (List.mem_filter.1 inCalls).1).2 _ (List.mem_cons_self ..))
  cases pattern with
  | call names =>
    obtain ⟨place, isMatch, rfl⟩ := List.mem_map.1 member
    exact here (List.mem_filter.1 isMatch).1
  | formatArgument places =>
    obtain ⟨place, isMatch, rfl⟩ := List.mem_map.1 member
    exact fits_callSpan joins all (List.mem_filter.1 (List.mem_filter.1 isMatch).1).1
  | unboundedScanf places =>
    obtain ⟨place, isMatch, rfl⟩ := List.mem_map.1 member
    exact fits_callSpan joins all (List.mem_filter.1 (List.mem_filter.1 isMatch).1).1
  | uncheckedAllocation names =>
    obtain ⟨place, isMatch, rfl⟩ := List.mem_map.1 member
    exact here (List.mem_filter.1 (List.mem_filter.1 isMatch).1).1
  | allocationWithoutRelease allocators releasers =>
    simp only [spans] at member
    split at member
    · obtain ⟨place, isMatch, rfl⟩ := List.mem_map.1 member
      exact here (List.mem_filter.1 (List.mem_of_mem_take isMatch)).1
    · cases member
  | pointerArithmetic =>
    obtain ⟨place, inPlaces, found⟩ := List.mem_filterMap.1 member
    exact fits_pointerArithmetic? joins all inPlaces found
  | indexedWrite =>
    obtain ⟨place, inPlaces, found⟩ := List.mem_filterMap.1 member
    exact fits_indexedWrite? joins all inPlaces found
  | sensitiveName words =>
    obtain ⟨tok, isMatch, rfl⟩ := List.mem_map.1 member
    exact all tok (List.mem_filter.1 isMatch).1
  | keyword words =>
    obtain ⟨tok, isMatch, rfl⟩ := List.mem_map.1 member
    exact all tok (List.mem_filter.1 isMatch).1

end Kept

end RiskMatch

namespace Place

variable {tokens : List Token} {place : Place}

theorem starts_of_mem_all
    (sorted : tokens.Pairwise (fun first second => first.span.start < second.span.start))
    (member : place ∈ all tokens) :
    (∀ tok ∈ place.before, tok.span.start < place.here.span.start) ∧
      (∀ tok ∈ place.here :: place.after, place.here.span.start ≤ tok.span.start) ∧
      ∀ previous, place.previous = some previous →
        ∀ tok ∈ place.before, tok.span.start ≤ previous.span.start := by
  have whole := tokens_of_mem_all member
  rw [Place.tokens] at whole
  rw [← whole] at sorted
  obtain ⟨front, back, across⟩ := List.pairwise_append.1 sorted
  refine ⟨?_, ?_, ?_⟩
  · intro tok inside
    exact across tok (List.mem_reverse.2 inside) place.here (List.mem_cons_self ..)
  · intro tok inside
    rcases List.mem_cons.1 inside with rfl | later
    · exact Nat.le_refl _
    · exact Nat.le_of_lt ((List.pairwise_cons.1 back).1 tok later)
  · intro previous found tok inside
    rw [Place.previous] at found
    cases before : place.before with
    | nil => simp [before] at found
    | cons head rest =>
      rw [before] at found inside front
      obtain rfl := Option.some.inj found
      rw [List.pairwise_reverse] at front
      rcases List.mem_cons.1 inside with rfl | earlier
      · exact Nat.le_refl _
      · exact Nat.le_of_lt ((List.pairwise_cons.1 front).1 tok earlier)

theorem mem_before_of_mem_allFrom {before : List Token} {tok : Token}
    (member : place ∈ allFrom before tokens) (inside : tok ∈ before) : tok ∈ place.before := by
  induction tokens generalizing before with
  | nil => cases member
  | cons head rest ih =>
    rcases List.mem_cons.1 member with rfl | later
    · exact inside
    · exact ih later (List.mem_cons_of_mem _ inside)

/-- Each place is before the later ones. -/
theorem pairwise_allFrom (before tokens : List Token) :
    (allFrom before tokens).Pairwise (fun first second => first.here ∈ second.before) := by
  induction tokens generalizing before with
  | nil => exact .nil
  | cons tok rest ih =>
    refine List.pairwise_cons.2 ⟨?_, ih (tok :: before)⟩
    intro second later
    exact mem_before_of_mem_allFrom later (List.mem_cons_self ..)

/-- Places come in the order of their tokens. -/
theorem pairwise_here_all
    (sorted : tokens.Pairwise (fun first second => first.span.start < second.span.start)) :
    (all tokens).Pairwise (fun first second =>
      first.here.span.start < second.here.span.start) := by
  rw [← map_here_all tokens] at sorted
  exact List.Pairwise.of_map here (fun _ _ less => less) sorted

/-- So do the tokens right before places. -/
theorem pairwise_previous_all
    (sorted : tokens.Pairwise (fun first second => first.span.start < second.span.start)) :
    (all tokens).Pairwise (fun first second =>
      ∀ firstPrevious ∈ first.previous, ∀ secondPrevious ∈ second.previous,
        firstPrevious.span.start < secondPrevious.span.start) := by
  apply (pairwise_allFrom [] tokens).imp_of_mem
  intro first second isFirst isSecond passed firstPrevious firstBefore secondPrevious secondBefore
  have ⟨behind, _, _⟩ := starts_of_mem_all sorted isFirst
  have ⟨_, _, nearest⟩ := starts_of_mem_all sorted isSecond
  have early := behind firstPrevious (List.mem_of_head? firstBefore)
  have late := nearest secondPrevious secondBefore first.here passed
  omega

end Place

namespace RiskMatch

/-- A match begins at one of the tokens. -/
theorem exists_start_of_mem_spans {pattern : RiskPattern} {tokens : List Token} {span : Span}
    (member : span ∈ spans pattern tokens) : ∃ tok ∈ tokens, tok.span.start = span.start := by
  have joins : ∀ first second : Span, (∃ tok ∈ tokens, tok.span.start = first.start) →
      (∃ tok ∈ tokens, tok.span.start = second.start) →
      ∃ tok ∈ tokens, tok.span.start = (first.join second).start := by
    rintro first second ⟨tok, inside, begins⟩ ⟨other, inOther, otherBegins⟩
    rcases Nat.le_total first.start second.start with le | le
    · exact ⟨tok, inside, begins.trans (Nat.min_eq_left le).symm⟩
    · exact ⟨other, inOther, otherBegins.trans (Nat.min_eq_right le).symm⟩
  exact fits_of_mem_spans joins (fun tok inside => ⟨tok, inside, rfl⟩) pattern member

section Sorted

variable {tokens : List Token}
  (sorted : tokens.Pairwise (fun first second => first.span.start < second.span.start))
include sorted

/-- Matches that begin at different places, each at its place, come in the order of the text. -/
theorem pairwise_map_start {places : List Place} (among : places.Sublist (Place.all tokens))
    {spanOf : Place → Span}
    (begins : ∀ place ∈ Place.all tokens, (spanOf place).start = place.here.span.start) :
    (places.map spanOf).Pairwise (fun first second => first.start < second.start) := by
  apply List.pairwise_map.2
  apply ((Place.pairwise_here_all sorted).sublist among).imp_of_mem
  intro first second isFirst isSecond less
  rw [begins first (among.subset isFirst), begins second (among.subset isSecond)]
  exact less

theorem start_callSpan {place : Place} (member : place ∈ Place.all tokens) :
    (callSpan place place.arguments).start = place.here.span.start := by
  have ⟨_, ahead, _⟩ := Place.starts_of_mem_all sorted member
  exact Nat.min_eq_left (ahead _ place.close_mem_arguments)

theorem start_pointerArithmetic? {place : Place} (member : place ∈ Place.all tokens) {span : Span}
    (found : pointerArithmetic? place = some span) : span.start = place.here.span.start := by
  have ⟨_, ahead, _⟩ := Place.starts_of_mem_all sorted member
  rw [pointerArithmetic?] at found
  split at found
  · obtain ⟨close, computed, rfl⟩ := Option.map_eq_some_iff.1 found
    exact Nat.min_eq_left (ahead _ (List.mem_cons_of_mem _ (mem_of_computedAddress? computed)))
  · cases found

theorem start_indexedWrite? {place : Place} (member : place ∈ Place.all tokens) {span : Span}
    (found : indexedWrite? place = some span) :
    ∃ previous, place.previous = some previous ∧ span.start = previous.span.start := by
  have ⟨behind, ahead, _⟩ := Place.starts_of_mem_all sorted member
  rw [indexedWrite?] at found
  split at found
  · cases found
  rename_i previous before eq
  split at found
  · split at found
    · cases found
    rename_i index isIndex
    split at found
    · obtain rfl := Option.some.inj found
      refine ⟨previous, by simp [Place.previous, eq], Nat.min_eq_left ?_⟩
      have early := behind previous (by simp [eq])
      have late := ahead _ (Bracketed.mem_of_ofTokens? isIndex).1
      omega
    · cases found
  · cases found

theorem pairwise_indexedWrite? :
    ((Place.all tokens).filterMap indexedWrite?).Pairwise
      (fun first second => first.start < second.start) := by
  apply List.pairwise_filterMap.2
  apply (Place.pairwise_previous_all sorted).imp_of_mem
  intro first second isFirst isSecond apart span found other otherFound
  obtain ⟨firstPrevious, firstBefore, begins⟩ := start_indexedWrite? sorted isFirst found
  obtain ⟨secondPrevious, secondBefore, otherBegins⟩ :=
    start_indexedWrite? sorted isSecond otherFound
  rw [begins, otherBegins]
  exact apart firstPrevious firstBefore secondPrevious secondBefore

/-- The matches of a pattern come in the order of the text and begin at different tokens. -/
theorem pairwise_spans (pattern : RiskPattern) :
    (spans pattern tokens).Pairwise (fun first second => first.start < second.start) := by
  have calls : (callPlaces tokens).Sublist (Place.all tokens) := List.filter_sublist
  have here : ∀ place ∈ Place.all tokens, place.here.span.start = place.here.span.start :=
    fun _ _ => rfl
  have atCall : ∀ place ∈ Place.all tokens,
      (callSpan place place.arguments).start = place.here.span.start :=
    fun place member => start_callSpan sorted member
  cases pattern with
  | call names => exact pairwise_map_start sorted (List.filter_sublist.trans calls) here
  | formatArgument places =>
    exact pairwise_map_start sorted (List.filter_sublist.trans calls) atCall
  | unboundedScanf places =>
    exact pairwise_map_start sorted (List.filter_sublist.trans calls) atCall
  | uncheckedAllocation names =>
    exact pairwise_map_start sorted
      (List.filter_sublist.trans (List.filter_sublist.trans calls)) here
  | allocationWithoutRelease allocators releasers =>
    simp only [spans]
    split
    · exact pairwise_map_start sorted
        ((List.take_sublist ..).trans (List.filter_sublist.trans calls)) here
    · exact .nil
  | pointerArithmetic =>
    apply List.pairwise_filterMap.2
    apply (Place.pairwise_here_all sorted).imp_of_mem
    intro first second isFirst isSecond less span found other otherFound
    rw [start_pointerArithmetic? sorted isFirst found,
      start_pointerArithmetic? sorted isSecond otherFound]
    exact less
  | indexedWrite => exact pairwise_indexedWrite? sorted
  | sensitiveName words => exact List.pairwise_map.2 (sorted.filter _)
  | keyword words => exact List.pairwise_map.2 (sorted.filter _)

end Sorted

end RiskMatch

end CSurvey
