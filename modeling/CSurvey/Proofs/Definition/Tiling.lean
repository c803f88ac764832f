import CSurvey.Proofs.Definition.Sites

/-!
# Definitions tile their tokens

A list of tokens is made of the definitions found in it, in order, and of the
tokens between them.  Only the last definition can lack its closing brace, and
then nothing follows it.  Definitions of consecutive parts of a text tile the
whole text, as long as each part but the last closes its definitions.
-/

namespace CSurvey

/-- The tokens are those of the definitions `sites`, in order, and those `outside` all of them. -/
inductive Tiling : List Token → List Site → List Token → Prop
  | gap (outside : List Token) : Tiling outside [] outside
  | site (gap : List Token) {site : Site} {rest outside : List Token} {sites : List Site}
      (formed : site.Formed) (atEnd : site.definition.closeBrace = none → rest = [])
      (tail : Tiling rest sites outside) :
      Tiling (gap ++ (site.tokens ++ rest)) (site :: sites) (gap ++ outside)

namespace Tiling

variable {tokens front back outside others : List Token} {sites more : List Site} {site : Site}

theorem prepend (tiling : Tiling tokens sites outside) (front : List Token) :
    Tiling (front ++ tokens) sites (front ++ outside) := by
  cases tiling with
  | gap => exact .gap _
  | @site gap site rest outside sites formed atEnd tail =>
    rw [← List.append_assoc front gap (site.tokens ++ rest), ← List.append_assoc front gap outside]
    exact .site (front ++ gap) formed atEnd tail

theorem append (first : Tiling front sites outside) (second : Tiling back more others)
    (closed : ∀ site ∈ sites, site.definition.closeBrace = none → back = []) :
    Tiling (front ++ back) (sites ++ more) (outside ++ others) := by
  induction first with
  | gap => exact second.prepend _
  | @site gap site rest outside sites formed atEnd tail ih =>
    obtain ⟨closedHere, closedLater⟩ := List.forall_mem_cons.1 closed
    rw [List.append_assoc, List.append_assoc, List.append_assoc, List.cons_append]
    refine .site gap formed ?_ (ih closedLater)
    intro unclosed
    rw [atEnd unclosed, closedHere unclosed, List.append_nil]

theorem formed (tiling : Tiling tokens sites outside) (member : site ∈ sites) :
    site.Formed := by
  induction tiling with
  | gap => cases member
  | site gap formed atEnd tail ih =>
    rcases List.mem_cons.1 member with rfl | later
    · exact formed
    · exact ih later

theorem exists_context (tiling : Tiling tokens sites outside) (member : site ∈ sites) :
    ∃ front back, tokens = front ++ (site.tokens ++ back) ∧
      (site.definition.closeBrace = none → back = []) := by
  induction tiling with
  | gap => cases member
  | @site gap first rest outside sites formed atEnd tail ih =>
    rcases List.mem_cons.1 member with rfl | later
    · exact ⟨gap, rest, rfl, atEnd⟩
    · obtain ⟨front, back, rfl, lastAtEnd⟩ := ih later
      exact ⟨gap ++ (first.tokens ++ front), back, by simp, lastAtEnd⟩

theorem mem_tokens (tiling : Tiling tokens sites outside) (member : site ∈ sites) {tok : Token}
    (inside : tok ∈ site.tokens) : tok ∈ tokens := by
  obtain ⟨front, back, rfl, -⟩ := tiling.exists_context member
  simp [inside]

/-- No token is lost, and none is in two places. -/
theorem perm (tiling : Tiling tokens sites outside) :
    (sites.flatMap Site.tokens ++ outside).Perm tokens := by
  induction tiling with
  | gap => exact .refl _
  | @site gap first rest outside sites formed atEnd tail ih =>
    have swapped : (sites.flatMap Site.tokens ++ (gap ++ outside)).Perm (gap ++ rest) :=
      (List.perm_append_comm_assoc ..).trans (ih.append_left gap)
    rw [List.flatMap_cons, List.append_assoc]
    exact (swapped.append_left first.tokens).trans (List.perm_append_comm_assoc ..)

/-- Each definition but the last is closed, and its tokens come before those of the later ones. -/
theorem pairwise {order : Token → Token → Prop} (tiling : Tiling tokens sites outside)
    (sorted : tokens.Pairwise order) :
    sites.Pairwise (fun first second => first.definition.closeBrace ≠ none ∧
      ∀ earlier ∈ first.tokens, ∀ later ∈ second.tokens, order earlier later) := by
  induction tiling with
  | gap => exact .nil
  | site gap formed atEnd tail ih =>
    obtain ⟨-, sorted, -⟩ := List.pairwise_append.1 sorted
    obtain ⟨-, restSorted, across⟩ := List.pairwise_append.1 sorted
    refine List.pairwise_cons.2 ⟨?_, ih restSorted⟩
    intro second member
    constructor
    · intro unclosed
      have nothing := tail.mem_tokens member
        (show second.name ∈ second.tokens by simp [Site.tokens])
      rw [atEnd unclosed] at nothing
      cases nothing
    · intro earlier inFirst later inSecond
      exact across earlier inFirst later (tail.mem_tokens member inSecond)

end Tiling

theorem Sites.exists_tiling {before tokens : List Token} {sites : List Site}
    (search : Sites before tokens sites) :
    ∃ outside, Tiling (before.reverse ++ tokens) sites outside := by
  induction search with
  | done before => exact ⟨_, .gap _⟩
  | @site before name definition rest sites outside isName found tail ih =>
    obtain ⟨others, tiling⟩ := ih
    rw [List.reverse_nil, List.nil_append] at tiling
    obtain ⟨-, ⟨left, whole, atEnd⟩, -⟩ := Definition.ofTokens?_eq_some found
    obtain rfl := List.append_cancel_left whole
    have formed : (Site.ofParts before name definition).Formed :=
      Sites.formed (.site before outside isName found tail) (List.mem_cons_self ..)
    -- What stands further before than the return type lies outside.
    refine ⟨(before.dropWhile isTypeWord).reverse ++ others, ?_⟩
    have parts : before.reverse ++ name :: (definition.tokens ++ rest) =
        (before.dropWhile isTypeWord).reverse ++
          ((Site.ofParts before name definition).tokens ++ rest) := by
      have halves := congrArg List.reverse
        (List.takeWhile_append_dropWhile (p := isTypeWord) (l := before))
      rw [List.reverse_append] at halves
      simp [Site.tokens, Site.ofParts, ← halves]
    rw [parts]
    exact .site _ formed atEnd tiling
  | @pass before rest tok sites other tail ih =>
    obtain ⟨outside, tiling⟩ := ih
    cases ends : endsDeclaration tok with
    | true =>
      rw [ends, if_pos rfl, List.reverse_nil, List.nil_append] at tiling
      refine ⟨before.reverse ++ tok :: outside, ?_⟩
      have whole := (tiling.prepend [tok]).prepend before.reverse
      simpa using whole
    | false =>
      rw [ends, if_neg Bool.false_ne_true] at tiling
      exact ⟨outside, by simpa using tiling⟩

end CSurvey
