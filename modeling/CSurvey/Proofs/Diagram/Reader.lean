import CSurvey.Diagram.Text
import CSurvey.Proofs.Diagram.Identifiers

/-!
# Reading the text of a diagram

The text of a diagram is read line by line.  A label stands between quotes, where a
backslash takes the quote behind it into the label and a line feed does not end the line.
A line declares a node or the aggregate, or it draws an edge; all others say how the
diagram is to look.
-/

namespace CSurvey.Diagram

/-- What a line of a diagram declares or draws. -/
inductive Statement where
  | node (id : String)
  | aggregate (id : String)
  | solid (source target : String)
  | dashed (source target : String)
deriving DecidableEq, Repr

/-- Where a reader stands: outside of quotes, between them, or behind a backslash there. -/
inductive Standing where
  | outside
  | inside
  | escaped
deriving DecidableEq, Repr

def Standing.next : Standing → Char → Standing
  | outside, c => if c = '"' then inside else outside
  | inside, c => if c = '"' then outside else if c = '\\' then escaped else inside
  | escaped, _ => inside

/-- Where a reader stands after a part of a line, if the line does not end there. -/
def Standing.walk : Standing → List Char → Option Standing
  | standing, [] => some standing
  | standing, c :: rest =>
    if standing = .outside ∧ c = '\n' then none else (standing.next c).walk rest

/-- The lines of a text, when `line` has been read of the first one, latest first. -/
def linesFrom (standing : Standing) (line : List Char) : List Char → List (List Char)
  | [] => if line.isEmpty then [] else [line.reverse]
  | c :: rest =>
    if standing = .outside ∧ c = '\n' then line.reverse :: linesFrom .outside [] rest
    else linesFrom (standing.next c) (c :: line) rest

/-- What follows the quote that ends a label. -/
def afterLabel (standing : Standing) : List Char → List Char
  | [] => []
  | c :: rest =>
    if standing.next c = .outside then rest else afterLabel (standing.next c) rest

def firstWord (line : List Char) : String × List Char :=
  let body := line.dropWhile (· == ' ')
  (String.ofList (body.takeWhile NameHints.isIdChar), body.dropWhile NameHints.isIdChar)

def lastWord (line : List Char) : String :=
  String.ofList (line.reverse.takeWhile NameHints.isIdChar).reverse

/-- Whether a part of a line begins with a mark. -/
def opens (mark : String) (cs : List Char) : Bool :=
  mark.toList.isPrefixOf cs

/-- What a line says in a Mermaid graph. -/
def mermaidStatement? (line : List Char) : Option Statement :=
  let (word, rest) := firstWord line
  if opens "[\"" rest then some (.node word)
  else if opens "((\"" rest then some (.aggregate word)
  else if opens " -->" rest then some (.solid word (lastWord line))
  else if opens " -.->" rest then some (.dashed word (lastWord line))
  else none

/-- What a line says in the DOT language. -/
def dotStatement? (line : List Char) : Option Statement :=
  let (word, rest) := firstWord line
  if opens " [label=\"" rest then
    if opens ", shape=ellipse" (afterLabel .inside (rest.drop 9)) then some (.aggregate word)
    else some (.node word)
  else if opens " ->" rest then
    let (target, marks) := firstWord (rest.drop 3)
    if opens " [style=dashed" marks then some (.dashed word target) else some (.solid word target)
  else none

def readMermaid (text : String) : List Statement :=
  (linesFrom .outside [] text.toList).filterMap mermaidStatement?

def readDot (text : String) : List Statement :=
  (linesFrom .outside [] text.toList).filterMap dotStatement?

section Lines

variable {standing : Standing} {part : List Char}

theorem walk_append (rest : List Char) :
    standing.walk (part ++ rest) = (standing.walk part).bind (fun later => later.walk rest) := by
  induction part generalizing standing with
  | nil => rfl
  | cons c part ih =>
    rw [List.cons_append, Standing.walk, Standing.walk]
    split
    · rfl
    · exact ih

theorem linesFrom_append {later : Standing} (walked : standing.walk part = some later)
    (line rest : List Char) :
    linesFrom standing line (part ++ rest) = linesFrom later (part.reverse ++ line) rest := by
  induction part generalizing standing line with
  | nil =>
    obtain rfl := Option.some.inj walked
    rfl
  | cons c part ih =>
    rw [Standing.walk] at walked
    split at walked
    · cases walked
    · rename_i goesOn
      rw [List.cons_append, linesFrom, if_neg goesOn, ih walked, List.reverse_cons,
        List.append_assoc, List.singleton_append]

/-- Lines whose quotes are closed are read as they have been written. -/
theorem linesFrom_unlines {lines : List String}
    (closed : ∀ line ∈ lines, Standing.walk .outside line.toList = some .outside) :
    linesFrom .outside [] (unlines lines).toList = lines.map String.toList := by
  induction lines with
  | nil => rfl
  | cons line lines ih =>
    obtain ⟨first, closed⟩ := List.forall_mem_cons.1 closed
    have text : (unlines (line :: lines)).toList =
        line.toList ++ '\n' :: (unlines lines).toList := by
      simp [unlines]
    rw [text, linesFrom_append first, linesFrom, if_pos ⟨rfl, rfl⟩, ih closed, List.append_nil,
      List.reverse_reverse, List.map_cons]

theorem walk_outside (plain : ∀ c ∈ part, c ≠ '"' ∧ c ≠ '\n') :
    Standing.walk .outside part = some .outside := by
  induction part with
  | nil => rfl
  | cons c part ih =>
    obtain ⟨⟨notQuote, notFeed⟩, plain⟩ := List.forall_mem_cons.1 plain
    simp [Standing.walk, Standing.next, notQuote, notFeed, ih plain]

theorem walk_inside (plain : ∀ c ∈ part, c ≠ '"' ∧ c ≠ '\\') :
    Standing.walk .inside part = some .inside := by
  induction part with
  | nil => rfl
  | cons c part ih =>
    obtain ⟨⟨notQuote, notSlash⟩, plain⟩ := List.forall_mem_cons.1 plain
    simp [Standing.walk, Standing.next, notQuote, notSlash, ih plain]

theorem afterLabel_append (plain : ∀ c ∈ part, c ≠ '"' ∧ c ≠ '\\') (rest : List Char) :
    afterLabel .inside (part ++ rest) = afterLabel .inside rest := by
  induction part with
  | nil => rfl
  | cons c part ih =>
    obtain ⟨⟨notQuote, notSlash⟩, plain⟩ := List.forall_mem_cons.1 plain
    simp [afterLabel, Standing.next, notQuote, notSlash, ih plain]

theorem toList_escapeLabel_cons (c : Char) (cs : List Char) :
    (escapeLabel (String.ofList (c :: cs))).toList =
      (if c = '\\' then ['\\', '\\'] else if c = '"' then ['\\', '"'] else [c]) ++
        (escapeLabel (String.ofList cs)).toList := by
  simp [escapeLabel]

/-- A label is read to its end and no further. -/
theorem walk_escapeLabel (label : String) :
    Standing.walk .inside (escapeLabel label).toList = some .inside := by
  rw [← String.ofList_toList (s := label)]
  induction label.toList with
  | nil => rfl
  | cons c cs ih =>
    rw [toList_escapeLabel_cons, walk_append]
    split
    · simpa [Standing.walk, Standing.next] using ih
    · split
      · simpa [Standing.walk, Standing.next] using ih
      · rename_i notSlash notQuote
        simpa [Standing.walk, Standing.next, notSlash, notQuote] using ih

theorem afterLabel_escapeLabel (label : String) (rest : List Char) :
    afterLabel .inside ((escapeLabel label).toList ++ '"' :: rest) = rest := by
  rw [← String.ofList_toList (s := label)]
  induction label.toList with
  | nil => rfl
  | cons c cs ih =>
    rw [toList_escapeLabel_cons, List.append_assoc]
    split
    · simpa [afterLabel, Standing.next] using ih
    · split
      · simpa [afterLabel, Standing.next] using ih
      · rename_i notSlash notQuote
        simpa [afterLabel, Standing.next, notSlash, notQuote] using ih

end Lines

section Words

theorem isIdChar_iff {c : Char} : NameHints.isIdChar c = true ↔ c.isAlphanum = true ∨ c = '_' := by
  simp [NameHints.isIdChar]

variable {id : String}

theorem isIdentifier_of_all {first : Char} {rest : List Char} (chars : id.toList = first :: rest)
    (begins : first.isAlpha = true) (goesOn : rest.all NameHints.isIdChar = true) :
    IsIdentifier id :=
  ⟨first, rest, chars, Or.inl begins,
    fun c member => isIdChar_iff.1 (List.all_eq_true.1 goesOn c member)⟩

variable (identifier : IsIdentifier id)
include identifier

theorem IsIdentifier.isIdChar {c : Char} (member : c ∈ id.toList) :
    NameHints.isIdChar c = true := by
  obtain ⟨first, rest, chars, letter, others⟩ := identifier
  rw [isIdChar_iff]
  rw [chars] at member
  rcases List.mem_cons.1 member with rfl | inRest
  · exact letter.imp_left (fun letter => by simp [Char.isAlphanum, letter])
  · exact others c inRest

theorem IsIdentifier.plain {c : Char} (member : c ∈ id.toList) :
    c ≠ '"' ∧ c ≠ '\n' ∧ c ≠ ' ' ∧ c ≠ '-' := by
  have isIdChar := identifier.isIdChar member
  refine ⟨?_, ?_, ?_, ?_⟩ <;>
    · rintro rfl
      simp [NameHints.isIdChar] at isIdChar

theorem IsIdentifier.walk : Standing.walk .outside id.toList = some .outside :=
  walk_outside (fun _ member => ⟨(identifier.plain member).1, (identifier.plain member).2.1⟩)

theorem IsIdentifier.exists_first :
    ∃ first rest, id.toList = first :: rest ∧ first ≠ ' ' ∧ first ≠ '-' := by
  have parts := identifier
  obtain ⟨first, rest, chars, -⟩ := parts
  exact ⟨first, rest, chars, (identifier.plain (chars ▸ List.mem_cons_self ..)).2.2⟩

/-- A word that is an identifier is read to its end. -/
theorem firstWord_append {c : Char} (stops : NameHints.isIdChar c = false) (rest : List Char) :
    firstWord (id.toList ++ c :: rest) = (id, c :: rest) := by
  obtain ⟨first, more, chars, notBlank, -⟩ := identifier.exists_first
  have body : (id.toList ++ c :: rest).dropWhile (· == ' ') = id.toList ++ c :: rest := by
    rw [chars, List.cons_append, List.dropWhile_cons_of_neg (by simpa using notBlank)]
  have all : ∀ d ∈ id.toList, NameHints.isIdChar d = true := fun d => identifier.isIdChar
  rw [firstWord, body, List.takeWhile_append_of_pos all, List.dropWhile_append_of_pos all,
    List.takeWhile_cons_of_neg (by simp [stops]), List.dropWhile_cons_of_neg (by simp [stops]),
    List.append_nil, String.ofList_toList]

theorem lastWord_blank : lastWord (' ' :: id.toList) = id := by
  have all : ∀ c ∈ id.toList.reverse, NameHints.isIdChar c = true :=
    fun c member => identifier.isIdChar (List.mem_reverse.1 member)
  rw [lastWord, List.reverse_cons, List.takeWhile_append_of_pos all,
    List.takeWhile_cons_of_neg (by decide), List.append_nil, List.reverse_reverse,
    String.ofList_toList]

end Words

theorem lastWord_append (front : List Char) {line : List Char} (blank : ' ' ∈ line) :
    lastWord (front ++ line) = lastWord line := by
  have shorter : (line.reverse.takeWhile NameHints.isIdChar).length ≠ line.reverse.length := by
    intro same
    have whole := (List.takeWhile_prefix NameHints.isIdChar).eq_of_length same
    have taken : ' ' ∈ line.reverse.takeWhile NameHints.isIdChar := by
      rw [whole]
      exact List.mem_reverse.2 blank
    have isIdChar := List.mem_takeWhile_imp taken
    simp [NameHints.isIdChar] at isIdChar
  rw [lastWord, lastWord, List.reverse_append, List.takeWhile_append, if_neg shorter]

theorem firstWord_blank (line : List Char) : firstWord (' ' :: line) = firstWord line := by
  simp [firstWord]

end CSurvey.Diagram
