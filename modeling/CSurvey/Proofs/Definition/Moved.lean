import CSurvey.Definition
import CSurvey.Proofs.Definition.Sites
import CSurvey.Proofs.Token.Moved
import Mathlib.Tactic.SplitIfs

/-!
# Definitions in another place

What is counted in tokens does not depend on where they stand, and a definition
among tokens that stand elsewhere is the definition with its tokens there.

A record names a definition and counts its calls, branches and loops.  None of this
depends on where the tokens stand, and of what is measured only the number of lines
depends on the text between them.
-/

namespace CSurvey

section Calls

variable (move : Span → Span)

theorem isCall_relocated (place : Place) : (place.relocated move).isCall = place.isCall := by
  simp [Place.isCall]

theorem callPlaces_relocated (tokens : List Token) :
    callPlaces (tokens.map (Token.relocated move)) =
      (callPlaces tokens).map (Place.relocated move) := by
  rw [callPlaces, Place.all_relocated, List.filter_map, callPlaces]
  exact congrArg _ (List.filter_congr (fun place _ => isCall_relocated move place))

theorem countCalls_relocated (tokens : List Token) :
    countCalls (tokens.map (Token.relocated move)) = countCalls tokens := by
  simp only [countCalls, callSites, callPlaces_relocated, List.map_map]
  rfl

theorem countCalls_moved (shift : Shift) (tokens : List Token) :
    countCalls (tokens.map (Token.moved shift)) = countCalls tokens :=
  countCalls_relocated (Span.moved shift) tokens

end Calls

namespace Arguments

/-- The arguments among the relocated tokens. -/
def relocated (move : Span → Span) (arguments : Arguments) : Arguments :=
  ⟨arguments.args.map (List.map (Token.relocated move)), arguments.close.relocated move,
    arguments.rest.map (Token.relocated move), arguments.closed⟩

theorem collect_relocated (move : Span → Span) (level : Nat) (args : List (List Token))
    (current : List Token) (last : Token) (tokens : List Token) :
    collect level (args.map (List.map (Token.relocated move))) (current.map (Token.relocated move))
        (last.relocated move) (tokens.map (Token.relocated move)) =
      (collect level args current last tokens).relocated move := by
  fun_induction collect level args current last tokens with
  | case1 level args current last =>
    cases current <;> simp [collect, relocated]
  | case2 level args current last tok rest opens ih =>
    simp only [List.map_cons, collect, Token.isPunct_relocated, opens, if_true]
    exact ih
  | case3 level args current last tok rest notOpen closes first all =>
    simp only [List.map_cons, collect, Token.isPunct_relocated, notOpen, closes, first, if_true]
    cases current <;> cases args <;> simp [relocated, all]
  | case4 level args current last tok rest notOpen closes inner ih =>
    simp only [List.map_cons, collect, Token.isPunct_relocated, notOpen, closes, inner, if_true]
    exact ih
  | case5 level args current last tok rest notOpen notClose comma ih =>
    simp only [List.map_cons, collect, Token.isPunct_relocated, notOpen, notClose, comma, if_true]
    simpa using ih
  | case6 level args current last tok rest notOpen notClose other ih =>
    simp only [List.map_cons, collect, Token.isPunct_relocated, notOpen, notClose, other]
    exact ih

end Arguments

theorem arguments_relocated (move : Span → Span) (place : Place) :
    (place.relocated move).arguments = place.arguments.relocated move := by
  obtain ⟨before, here, after⟩ := place
  cases after with
  | nil => rfl
  | cons opening rest => exact Arguments.collect_relocated move 1 [] [] opening rest

section Measures

variable (move : Span → Span)

theorem topLevelCommas_relocated (nested : Nat) (tokens : List Token) :
    topLevelCommas nested (tokens.map (Token.relocated move)) = topLevelCommas nested tokens := by
  induction tokens generalizing nested with
  | nil => rfl
  | cons tok rest ih => simp only [List.map_cons, topLevelCommas, Token.text_relocated, ih]

theorem countParameters_relocated (params : List Token) :
    countParameters (params.map (Token.relocated move)) = countParameters params := by
  have code : (params.map (Token.relocated move)).filter Token.isCode =
      (params.filter Token.isCode).map (Token.relocated move) := by
    rw [List.filter_map]
    rfl
  have texts : Token.text ∘ Token.relocated move = Token.text := rfl
  simp only [countParameters, code, List.map_map, texts, topLevelCommas_relocated]

namespace Metrics.Progress

/-- The same progress, with the last token moved. -/
def relocated (progress : Progress) : Progress :=
  { progress with previous := progress.previous.map (Token.relocated move) }

theorem count_relocated (depth : Nat) (progress : Progress) (tok : Token) :
    (progress.relocated move).count depth (tok.relocated move) =
      (progress.count depth tok).relocated move := by
  have previous (mark : String) : (progress.previous.map (Token.relocated move)).any
      (·.isPunct mark) = progress.previous.any (·.isPunct mark) := by
    cases progress.previous <;> rfl
  change (progress.relocated move).count depth tok = _
  simp only [count, relocated, previous]
  split_ifs <;> rfl

theorem step_relocated (depth : Nat) (progress : Progress) (tok : Token) :
    (progress.relocated move).step depth (tok.relocated move) =
      (progress.step depth tok).relocated move := by
  simp only [step, count_relocated, Token.isCode_relocated, Token.text_relocated]
  split_ifs <;> rfl

end Metrics.Progress

theorem measure_relocated (body : List Token) (depth : Nat) (params : List Token)
    (text : List Char) :
    measure (body.map (Token.relocated move)) depth (params.map (Token.relocated move)) text =
      measure body depth params text := by
  have steps (progress : Metrics.Progress) :
      ((body.map (Token.relocated move)).foldl (Metrics.Progress.step depth)
          (progress.relocated move)).metrics =
        (body.foldl (Metrics.Progress.step depth) progress).metrics := by
    have whole : body.foldl (fun passed tok => passed.step depth (tok.relocated move))
        (progress.relocated move) =
          (body.foldl (Metrics.Progress.step depth) progress).relocated move :=
      List.foldl_hom _ (Metrics.Progress.step_relocated move depth)
    rw [List.foldl_map, whole]
    rfl
  simp only [measure, countParameters_relocated]
  exact steps ⟨_, [], false, none⟩

theorem measure_moved (shift : Shift) (body : List Token) (depth : Nat) (params : List Token)
    (text : List Char) :
    measure (body.map (Token.moved shift)) depth (params.map (Token.moved shift)) text =
      measure body depth params text :=
  measure_relocated (Span.moved shift) body depth params text

end Measures

namespace Definition

/-- The definition among the relocated tokens. -/
def relocated (move : Span → Span) (definition : Definition) : Definition :=
  { openParen := definition.openParen.relocated move
    params := definition.params.map (Token.relocated move)
    closeParen := definition.closeParen.relocated move
    openBrace := definition.openBrace.relocated move
    inner := definition.inner.map (Token.relocated move)
    closeBrace := definition.closeBrace.map (Token.relocated move) }

variable (move : Span → Span)

theorem bodyTokens_relocated (definition : Definition) :
    (definition.relocated move).bodyTokens = definition.bodyTokens.map (Token.relocated move) := by
  cases brace : definition.closeBrace <;> simp [bodyTokens, relocated, brace]

theorem tokens_relocated (definition : Definition) :
    (definition.relocated move).tokens = definition.tokens.map (Token.relocated move) := by
  rw [tokens, bodyTokens_relocated]
  simp [tokens, header, relocated]

theorem paramList_relocated (level : Nat) (passed tokens : List Token) :
    paramList level (passed.map (Token.relocated move)) (tokens.map (Token.relocated move)) =
      (paramList level passed tokens).map (fun found =>
        (found.1.map (Token.relocated move), found.2.1.relocated move,
          found.2.2.map (Token.relocated move))) := by
  fun_induction paramList level passed tokens with
  | case1 => rfl
  | case2 level passed tok rest opens ih =>
    simp only [List.map_cons, paramList, Token.isPunct_relocated, opens, if_true]
    exact ih
  | case3 level passed tok rest notOpen closes last =>
    simp only [List.map_cons, paramList, Token.isPunct_relocated, notOpen, closes, last, if_true]
    simp
  | case4 level passed tok rest notOpen closes inner ih =>
    simp only [List.map_cons, paramList, Token.isPunct_relocated, notOpen, closes, inner, if_true]
    exact ih
  | case5 level passed tok rest notOpen notClose other =>
    simp only [List.map_cons, paramList, Token.isPunct_relocated, notOpen, notClose, other, if_true]
    rfl
  | case6 level passed tok rest notOpen notClose other ih =>
    simp only [List.map_cons, paramList, Token.isPunct_relocated, notOpen, notClose, other]
    exact ih

/-- A definition is found among relocated tokens where it is found among the tokens. -/
theorem ofTokens?_relocated (tokens : List Token) :
    ofTokens? (tokens.map (Token.relocated move)) = (ofTokens? tokens).map (relocated move) := by
  cases tokens with
  | nil => rfl
  | cons openParen rest =>
    by_cases opens : openParen.isPunct "(" = true
    · have list := paramList_relocated move 1 [] rest
      rw [List.map_nil] at list
      simp only [List.map_cons, ofTokens?, Token.isPunct_relocated, opens, if_true, list]
      cases found : paramList 1 [] rest with
      | none => rfl
      | some parts =>
        obtain ⟨params, closeParen, following⟩ := parts
        cases following with
        | nil => rfl
        | cons openBrace bodyRest =>
          by_cases brace : openBrace.isPunct Token.openBrace = true
          · simp only [Option.map_some, List.map_cons, Token.isPunct_relocated, brace, if_true,
              relocated, List.takeWhile_map, List.dropWhile_map, List.head?_map]
            rfl
          · simp [brace]
    · simp [ofTokens?, opens]

/-- The definition that many bytes and lines further on. -/
def moved (shift : Shift) (definition : Definition) : Definition :=
  { openParen := definition.openParen.moved shift
    params := definition.params.map (Token.moved shift)
    closeParen := definition.closeParen.moved shift
    openBrace := definition.openBrace.moved shift
    inner := definition.inner.map (Token.moved shift)
    closeBrace := definition.closeBrace.map (Token.moved shift) }

section Moved

variable (shift : Shift)

theorem openBrace_moved (definition : Definition) :
    (definition.moved shift).openBrace = definition.openBrace.moved shift :=
  rfl

theorem bodyTokens_moved (definition : Definition) :
    (definition.moved shift).bodyTokens = definition.bodyTokens.map (Token.moved shift) :=
  bodyTokens_relocated (Span.moved shift) definition

theorem tokens_moved (definition : Definition) :
    (definition.moved shift).tokens = definition.tokens.map (Token.moved shift) :=
  tokens_relocated (Span.moved shift) definition

theorem ofTokens?_moved (tokens : List Token) :
    ofTokens? (tokens.map (Token.moved shift)) = (ofTokens? tokens).map (moved shift) :=
  ofTokens?_relocated (Span.moved shift) tokens

end Moved

end Definition

namespace Metrics

/-- The metrics apart from the number of lines. -/
def withoutLines (metrics : Metrics) : Metrics :=
  { metrics with lineCount := 0 }

namespace Progress

/-- The same progress, with no lines counted. -/
def withoutLines (progress : Progress) : Progress :=
  { progress with metrics := progress.metrics.withoutLines }

theorem count_withoutLines (depth : Nat) (progress : Progress) (tok : Token) :
    progress.withoutLines.count depth tok = (progress.count depth tok).withoutLines := by
  have closedDo : progress.withoutLines.closedDo = progress.closedDo := rfl
  have previous : progress.withoutLines.previous = progress.previous := rfl
  simp only [count, closedDo, previous]
  split_ifs <;> rfl

theorem step_withoutLines (depth : Nat) (progress : Progress) (tok : Token) :
    progress.withoutLines.step depth tok = (progress.step depth tok).withoutLines := by
  simp only [step, count_withoutLines]
  split_ifs <;> rfl

end Progress

end Metrics

theorem withoutLines_measure (body : List Token) (depth : Nat) (params : List Token)
    (text other : List Char) :
    (measure body depth params text).withoutLines =
      (measure body depth params other).withoutLines := by
  have steps (start : Metrics) :
      (body.foldl (Metrics.Progress.step depth) ⟨start, [], false, none⟩).metrics.withoutLines =
        (body.foldl (Metrics.Progress.step depth)
          ⟨start.withoutLines, [], false, none⟩).metrics := by
    exact (congrArg Metrics.Progress.metrics (List.foldl_hom Metrics.Progress.withoutLines
      (Metrics.Progress.step_withoutLines depth))).symm
  rw [measure, measure, steps, steps]
  rfl

namespace FunctionRecord

/-- What a record counts. -/
structure Counts where
  name : String
  calls : Tally
  metrics : Metrics
deriving DecidableEq

def counts (record : FunctionRecord) : Counts :=
  ⟨record.name, record.calls, record.metrics.withoutLines⟩

end FunctionRecord

theorem Definition.counts_record (definition : Definition) (cs : List Char) (before : List Token)
    (name : Token) (chunkId : Nat) :
    (definition.record cs before name chunkId).counts =
      ⟨name.text, countCalls definition.inner,
        { (measure definition.inner (definition.openBrace.depth + 1) definition.params
            []).withoutLines with callCount := (countCalls definition.inner).total }⟩ := by
  rw [FunctionRecord.counts, Definition.record, FunctionRecord.Counts.mk.injEq]
  refine ⟨rfl, rfl, ?_⟩
  exact congrArg (fun measured : Metrics =>
    { measured with callCount := (countCalls definition.inner).total }) (withoutLines_measure ..)

section Relocated

variable (move : Span → Span)

theorem Definition.counts_record_relocated (definition : Definition) (cs other : List Char)
    (before others : List Token) (name : Token) (chunkId otherId : Nat) :
    ((definition.relocated move).record cs before (name.relocated move) chunkId).counts =
      (definition.record other others name otherId).counts := by
  rw [counts_record, counts_record]
  simp only [Definition.relocated, countCalls_relocated, measure_relocated, Token.text_relocated,
    Token.depth_relocated]

theorem Definition.tokenCount_relocated (definition : Definition) :
    (definition.relocated move).tokenCount = definition.tokenCount := by
  simp [tokenCount, relocated]

/-- The definitions among relocated tokens count the same, whatever the text is. -/
theorem counts_definitionsFrom (cs other : List Char) (chunkId otherId : Nat)
    (before : List Token) (skip : Nat) (tokens : List Token) :
    (definitionsFrom cs chunkId (before.map (Token.relocated move)) skip
        (tokens.map (Token.relocated move))).map FunctionRecord.counts =
      (definitionsFrom other otherId before skip tokens).map FunctionRecord.counts := by
  have found (tok : Token) (rest : List Token) :
      (if (tok.relocated move).depth == 0 && (tok.relocated move).isName then
          Definition.ofTokens? (rest.map (Token.relocated move)) else none) =
        (if tok.depth == 0 && tok.isName then Definition.ofTokens? rest else none).map
          (Definition.relocated move) := by
    rw [Definition.ofTokens?_relocated, Token.depth_relocated, Token.isName_relocated]
    split <;> rfl
  fun_induction definitionsFrom other otherId before skip tokens with
  | case1 => simp [definitionsFrom]
  | case2 before skip tok rest ih =>
    simpa only [List.map_cons, definitionsFrom] using ih
  | case3 before tok rest search definition isFound ih =>
    have mapped := (found tok rest).trans (congrArg (Option.map _) isFound)
    simp only [List.map_cons, definitionsFrom, mapped, Option.map_some,
      Definition.tokenCount_relocated]
    rw [Definition.counts_record_relocated move definition cs other _ before tok chunkId otherId]
    exact congrArg _ ih
  | case4 before tok rest search isFound ih =>
    have mapped := (found tok rest).trans (congrArg (Option.map _) isFound)
    have passed : (if endsDeclaration (tok.relocated move) then []
          else tok.relocated move :: before.map (Token.relocated move)) =
        (if endsDeclaration tok then [] else tok :: before).map (Token.relocated move) := by
      rw [apply_ite (List.map _)]
      rfl
    simp only [List.map_cons, definitionsFrom, mapped, Option.map_none, passed]
    exact ih

end Relocated

end CSurvey
