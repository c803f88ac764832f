import CSurvey.Proofs.Risk.Extent
import CSurvey.Proofs.Token.Place

/-!
# What closes a match

A match of one token ends where it begins.  One that covers a call, a computed address or
an index runs on to a bracket.  If only the tokens up to some point are looked at, then
either that bracket is among them and ends the match, or the match ends behind them.
-/

namespace CSurvey

theorem Span.join_self (span : Span) : span.join span = span := by
  simp [join]

namespace Place

variable {tokens : List Token} {place : Place}

def last (place : Place) : Token :=
  place.after.getLastD place.here

theorem last_mem (place : Place) : place.last ∈ place.here :: place.after :=
  List.getLastD_mem_cons ..

theorem mem_all_of_tokens_eq (whole : place.tokens = tokens) : place ∈ all tokens := by
  rw [← whole, Place.tokens, all, allFrom_append, List.reverse_reverse, List.append_nil]
  exact List.mem_append_right _ (List.mem_cons_self ..)

end Place

namespace Arguments

variable {level : Nat} {args : List (List Token)} {current : List Token} {last : Token}
  {front back : List Token}

theorem close_mem_collect_cons (tok : Token) (rest : List Token) :
    (collect level args current last (tok :: rest)).close ∈ tok :: rest := by
  rw [collect]
  split
  · exact close_mem_collect ..
  split
  · split
    · exact List.mem_cons_self ..
    · exact close_mem_collect ..
  split
  · exact close_mem_collect ..
  · exact close_mem_collect ..

theorem close_collect_append (closed : (collect level args current last front).closed = true)
    (back : List Token) :
    (collect level args current last (front ++ back)).close =
      (collect level args current last front).close := by
  fun_induction collect level args current last front with
  | case1 => cases closed
  | case2 level args current last tok rest opens ih =>
    rw [List.cons_append, collect, if_pos opens, ih closed]
  | case3 level args current last tok rest notOpen closes one all =>
    rw [List.cons_append, collect, if_neg notOpen, if_pos closes, if_pos one]
  | case4 level args current last tok rest notOpen closes inner ih =>
    rw [List.cons_append, collect, if_neg notOpen, if_pos closes, if_neg inner, ih closed]
  | case5 level args current last tok rest notOpen notClose comma ih =>
    rw [List.cons_append, collect, if_neg notOpen, if_neg notClose, if_pos comma, ih closed]
  | case6 level args current last tok rest notOpen notClose other ih =>
    rw [List.cons_append, collect, if_neg notOpen, if_neg notClose, if_neg other, ih closed]

/-- Arguments that are left open by the first tokens end among the others. -/
theorem close_mem_back (unclosed : (collect level args current last front).closed = false)
    (nonempty : back ≠ []) :
    (collect level args current last (front ++ back)).close ∈ back := by
  fun_induction collect level args current last front with
  | case1 =>
    obtain ⟨tok, rest, rfl⟩ := List.exists_cons_of_ne_nil nonempty
    exact close_mem_collect_cons tok rest
  | case2 level args current last tok rest opens ih =>
    rw [List.cons_append, collect, if_pos opens]
    exact ih unclosed
  | case3 => cases unclosed
  | case4 level args current last tok rest notOpen closes inner ih =>
    rw [List.cons_append, collect, if_neg notOpen, if_pos closes, if_neg inner]
    exact ih unclosed
  | case5 level args current last tok rest notOpen notClose comma ih =>
    rw [List.cons_append, collect, if_neg notOpen, if_neg notClose, if_pos comma]
    exact ih unclosed
  | case6 level args current last tok rest notOpen notClose other ih =>
    rw [List.cons_append, collect, if_neg notOpen, if_neg notClose, if_neg other]
    exact ih unclosed

end Arguments

namespace Bracketed

variable {opening closing : String} {level : Nat} {inner front back : List Token}
  {group : Bracketed}

theorem findClose_append (found : findClose opening closing level inner front = some group)
    (back : List Token) :
    findClose opening closing level inner (front ++ back) =
      some { group with rest := group.rest ++ back } := by
  fun_induction findClose opening closing level inner front with
  | case1 => cases found
  | case2 level inner tok rest opens ih =>
    rw [List.cons_append, findClose, if_pos opens, ih found]
  | case3 level inner tok rest notOpen closes last =>
    obtain rfl := Option.some.inj found
    rw [List.cons_append, findClose, if_neg notOpen, if_pos closes, if_pos last]
  | case4 level inner tok rest notOpen closes further ih =>
    rw [List.cons_append, findClose, if_neg notOpen, if_pos closes, if_neg further, ih found]
  | case5 level inner tok rest notOpen notClose ih =>
    rw [List.cons_append, findClose, if_neg notOpen, if_neg notClose, ih found]

/-- A bracket that is left open by the first tokens is closed among the others. -/
theorem mem_back_of_findClose (unclosed : findClose opening closing level inner front = none)
    (found : findClose opening closing level inner (front ++ back) = some group) :
    group.close ∈ back ∧ ∀ tok ∈ group.rest, tok ∈ back := by
  fun_induction findClose opening closing level inner front with
  | case1 => exact mem_of_findClose found
  | case2 level inner tok rest opens ih =>
    rw [List.cons_append, findClose, if_pos opens] at found
    exact ih unclosed found
  | case3 => cases unclosed
  | case4 level inner tok rest notOpen closes further ih =>
    rw [List.cons_append, findClose, if_neg notOpen, if_pos closes, if_neg further] at found
    exact ih unclosed found
  | case5 level inner tok rest notOpen notClose ih =>
    rw [List.cons_append, findClose, if_neg notOpen, if_neg notClose] at found
    exact ih unclosed found

theorem ofTokens?_append (found : ofTokens? opening closing front = some group)
    (back : List Token) :
    ofTokens? opening closing (front ++ back) = some { group with rest := group.rest ++ back } := by
  cases front with
  | nil => cases found
  | cons tok rest =>
    rw [ofTokens?] at found
    rw [List.cons_append, ofTokens?]
    split at found
    next opens =>
      rw [if_pos opens]
      exact findClose_append found back
    next => cases found

theorem mem_back_of_ofTokens? (unclosed : ofTokens? opening closing front = none)
    (found : ofTokens? opening closing (front ++ back) = some group) :
    group.close ∈ back ∧ ∀ tok ∈ group.rest, tok ∈ back := by
  cases front with
  | nil => exact mem_of_ofTokens? found
  | cons tok rest =>
    rw [ofTokens?] at unclosed
    rw [List.cons_append, ofTokens?] at found
    split at unclosed
    next opens =>
      rw [if_pos opens] at found
      exact mem_back_of_findClose unclosed found
    next notOpen =>
      rw [if_neg notOpen] at found
      cases found

end Bracketed

namespace RiskMatch

variable {front back : List Token} {close : Token}

theorem computedAddress?_append {groups : Nat} (found : computedAddress? groups front = some close)
    (back : List Token) : computedAddress? groups (front ++ back) = some close := by
  induction groups generalizing front with
  | zero => cases found
  | succ groups ih =>
    rw [computedAddress?] at found ⊢
    split at found
    · cases found
    next group first =>
      rw [Bracketed.ofTokens?_append first]
      dsimp only
      split at found
      next computed =>
        rw [if_pos computed]
        exact found
      next other =>
        rw [if_neg other]
        exact ih found

theorem mem_back_of_computedAddress? {groups : Nat}
    (unclosed : computedAddress? groups front = none)
    (found : computedAddress? groups (front ++ back) = some close) : close ∈ back := by
  induction groups generalizing front with
  | zero => cases found
  | succ groups ih =>
    rw [computedAddress?] at unclosed found
    cases first : Bracketed.ofTokens? "(" ")" front with
    | none =>
      split at found
      · cases found
      next group whole =>
        obtain ⟨inBack, restInBack⟩ := Bracketed.mem_back_of_ofTokens? first whole
        split at found
        · obtain rfl := Option.some.inj found
          exact inBack
        · exact restInBack _ (mem_of_computedAddress? found)
    | some group =>
      rw [first] at unclosed
      rw [Bracketed.ofTokens?_append first] at found
      dsimp only at unclosed found
      split at unclosed
      · cases unclosed
      next other =>
        rw [if_neg other] at found
        exact ih unclosed found

def ending (pattern : RiskPattern) (place : Place) : Token :=
  match pattern with
  | .formatArgument _ | .unboundedScanf _ => place.arguments.close
  | .pointerArithmetic => (computedAddress? 2 place.after).getD place.last
  | .indexedWrite => ((Bracketed.ofTokens? "[" "]" place.after).map Bracketed.close).getD place.last
  | _ => place.here

/-- Whether the tokens of a place close a match that begins there. -/
def isClosed (pattern : RiskPattern) (place : Place) : Bool :=
  match pattern with
  | .formatArgument _ | .unboundedScanf _ => place.arguments.closed
  | .pointerArithmetic => (computedAddress? 2 place.after).isSome
  | .indexedWrite => (Bracketed.ofTokens? "[" "]" place.after).isSome
  | _ => true

/-- A match of one token begins and ends there. -/
theorem exists_place_of_mem {tokens : List Token} {tok : Token} (member : tok ∈ tokens) :
    ∃ place ∈ Place.all tokens, tok.span = place.here.span.join place.here.span := by
  rw [← Place.map_here_all tokens] at member
  obtain ⟨place, inPlaces, rfl⟩ := List.mem_map.1 member
  exact ⟨place, inPlaces, (Span.join_self _).symm⟩

theorem span_of_pointerArithmetic? {place : Place} {span : Span}
    (found : pointerArithmetic? place = some span) :
    span = place.here.span.join (ending .pointerArithmetic place).span := by
  rw [pointerArithmetic?] at found
  split at found
  · obtain ⟨close, computed, rfl⟩ := Option.map_eq_some_iff.1 found
    rw [ending, computed, Option.getD_some]
  · cases found

theorem exists_place_of_indexedWrite? {tokens : List Token} {place : Place}
    (member : place ∈ Place.all tokens) {span : Span} (found : indexedWrite? place = some span) :
    ∃ first ∈ Place.all tokens,
      span = first.here.span.join (ending .indexedWrite first).span := by
  rw [indexedWrite?] at found
  split at found
  · cases found
  next previous before eq =>
    split at found
    · split at found
      · cases found
      next index isIndex =>
        split at found
        · obtain rfl := Option.some.inj found
          refine ⟨⟨before, previous, place.here :: place.after⟩, ?_, ?_⟩
          · apply Place.mem_all_of_tokens_eq
            rw [← Place.tokens_of_mem_all member, Place.tokens, Place.tokens, eq]
            simp
          · rw [ending, isIndex, Option.map_some, Option.getD_some]
        · cases found
    · cases found

/-- A match covers all from the place where it begins to its last token. -/
theorem exists_place_of_mem_spans {pattern : RiskPattern} {tokens : List Token} {span : Span}
    (member : span ∈ spans pattern tokens) :
    ∃ place ∈ Place.all tokens, span = place.here.span.join (ending pattern place).span := by
  have inPlaces {place : Place} (inCalls : place ∈ callPlaces tokens) :
      place ∈ Place.all tokens :=
    (List.mem_filter.1 inCalls).1
  have join_self (place : Place) : place.here.span = place.here.span.join place.here.span :=
    (Span.join_self _).symm
  cases pattern with
  | call names =>
    obtain ⟨place, isMatch, rfl⟩ := List.mem_map.1 member
    exact ⟨place, inPlaces (List.mem_filter.1 isMatch).1, join_self place⟩
  | formatArgument places | unboundedScanf places =>
    obtain ⟨place, isMatch, rfl⟩ := List.mem_map.1 member
    exact ⟨place, inPlaces (List.mem_filter.1 isMatch).1, rfl⟩
  | uncheckedAllocation names =>
    obtain ⟨place, isMatch, rfl⟩ := List.mem_map.1 member
    exact ⟨place, inPlaces (List.mem_filter.1 (List.mem_filter.1 isMatch).1).1,
      join_self place⟩
  | allocationWithoutRelease allocators releasers =>
    simp only [spans] at member
    split at member
    · obtain ⟨place, isMatch, rfl⟩ := List.mem_map.1 member
      exact ⟨place, inPlaces (List.mem_filter.1 (List.mem_of_mem_take isMatch)).1,
        join_self place⟩
    · cases member
  | pointerArithmetic =>
    obtain ⟨place, isPlace, found⟩ := List.mem_filterMap.1 member
    exact ⟨place, isPlace, span_of_pointerArithmetic? found⟩
  | indexedWrite =>
    obtain ⟨place, isPlace, found⟩ := List.mem_filterMap.1 member
    exact exists_place_of_indexedWrite? isPlace found
  | sensitiveName words =>
    obtain ⟨tok, isMatch, rfl⟩ := List.mem_map.1 member
    exact exists_place_of_mem (List.mem_filter.1 isMatch).1
  | keyword words =>
    obtain ⟨tok, isMatch, rfl⟩ := List.mem_map.1 member
    exact exists_place_of_mem (List.mem_filter.1 isMatch).1

variable {pattern : RiskPattern} {place : Place}

theorem ending_mem (pattern : RiskPattern) (place : Place) :
    ending pattern place ∈ place.here :: place.after := by
  cases pattern with
  | formatArgument places | unboundedScanf places => exact place.close_mem_arguments
  | pointerArithmetic =>
    rw [ending]
    cases found : computedAddress? 2 place.after with
    | none => exact place.last_mem
    | some close => exact List.mem_cons_of_mem _ (mem_of_computedAddress? found)
  | indexedWrite =>
    rw [ending]
    cases found : Bracketed.ofTokens? "[" "]" place.after with
    | none => exact place.last_mem
    | some index => exact List.mem_cons_of_mem _ (Bracketed.mem_of_ofTokens? found).1
  | _ => exact List.mem_cons_self ..

variable (split : place.after = front ++ back)
include split

/-- A match that is closed by the first tokens ends among them. -/
theorem ending_mem_front (closed : isClosed pattern { place with after := front } = true) :
    ending pattern place ∈ place.here :: front := by
  cases pattern with
  | formatArgument places | unboundedScanf places =>
    cases front with
    | nil => cases closed
    | cons opening rest =>
      rw [ending, Place.arguments, split]
      dsimp only [List.cons_append]
      rw [Arguments.close_collect_append closed]
      exact List.mem_cons_of_mem _ (Arguments.close_mem_collect ..)
  | pointerArithmetic =>
    obtain ⟨close, found⟩ := Option.isSome_iff_exists.1 closed
    rw [ending, split, computedAddress?_append found, Option.getD_some]
    exact List.mem_cons_of_mem _ (mem_of_computedAddress? found)
  | indexedWrite =>
    obtain ⟨index, found⟩ := Option.isSome_iff_exists.1 closed
    rw [ending, split, Bracketed.ofTokens?_append found, Option.map_some, Option.getD_some]
    exact List.mem_cons_of_mem _ (Bracketed.mem_of_ofTokens? found).1
  | _ => exact List.mem_cons_self ..

/-- A match that is left open by the first tokens ends among the others. -/
theorem ending_mem_back (unclosed : isClosed pattern { place with after := front } = false)
    (nonempty : back ≠ []) : ending pattern place ∈ back := by
  have last : place.last ∈ back := by
    rw [Place.last, split, List.getLastD_eq_getLast?, List.getLast?_append,
      List.getLast?_eq_some_getLast nonempty]
    exact List.getLast_mem nonempty
  cases pattern with
  | formatArgument places | unboundedScanf places =>
    cases front with
    | nil =>
      obtain ⟨opening, rest, rfl⟩ := List.exists_cons_of_ne_nil nonempty
      rw [ending, Place.arguments, split]
      exact Arguments.close_mem_collect ..
    | cons opening rest =>
      rw [ending, Place.arguments, split]
      exact Arguments.close_mem_back unclosed nonempty
  | pointerArithmetic =>
    have none := Option.isSome_eq_false_iff.1 unclosed
    rw [Option.isNone_iff_eq_none] at none
    rw [ending]
    cases found : computedAddress? 2 place.after with
    | none => exact last
    | some close =>
      rw [split] at found
      exact mem_back_of_computedAddress? none found
  | indexedWrite =>
    have none := Option.isSome_eq_false_iff.1 unclosed
    rw [Option.isNone_iff_eq_none] at none
    rw [ending]
    cases found : Bracketed.ofTokens? "[" "]" place.after with
    | none => exact last
    | some index =>
      rw [split] at found
      exact (Bracketed.mem_back_of_ofTokens? none found).1
  | _ => cases unclosed

end RiskMatch

end CSurvey
