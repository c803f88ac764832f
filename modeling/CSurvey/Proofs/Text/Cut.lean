import CSurvey.Text.Bytes

/-!
# Cutting text at byte offsets

The beginnings of one text are ordered by their byte lengths, so a byte offset
between two characters determines one cut.  This file collects what the proofs
about spans need: boundaries, slices of parts of a text, and the bytes
themselves.

A reader that goes through a text byte by byte meets ASCII characters as they are,
and any other character as bytes each of which is beyond ASCII.  For such readers the
bytes are the characters with their numbers, so that one test serves for both.
-/

namespace CSurvey.Text

/-- The offsets at which a character begins, and the end of the text. -/
def IsBoundary (cs : List Char) (offset : Nat) : Prop :=
  ∃ front back, cs = front ++ back ∧ byteLength front = offset

/-- The bytes of the UTF-8 form. -/
def octets (cs : List Char) : List UInt8 :=
  cs.flatMap String.utf8EncodeChar

@[simp]
theorem octets_append (front back : List Char) :
    octets (front ++ back) = octets front ++ octets back := by
  simp [octets]

@[simp]
theorem length_octets (cs : List Char) : (octets cs).length = byteLength cs := by
  induction cs with
  | nil => rfl
  | cons c cs ih => simpa [octets] using ih

@[simp]
theorem byteLength_eq_zero {cs : List Char} : byteLength cs = 0 ↔ cs = [] := by
  cases cs with
  | nil => simp
  | cons c cs =>
    have := c.utf8Size_pos
    simp only [byteLength_cons, reduceCtorEq, iff_false]
    omega

theorem byteLength_pos {cs : List Char} (nonempty : cs ≠ []) : 0 < byteLength cs :=
  Nat.pos_of_ne_zero (fun zero => nonempty (byteLength_eq_zero.1 zero))

theorem byteLength_le_of_isPrefix {front cs : List Char} (isPrefix : front <+: cs) :
    byteLength front ≤ byteLength cs := by
  obtain ⟨back, rfl⟩ := isPrefix
  simp

/-- Of two beginnings of one text, the shorter in bytes is a beginning of the other. -/
theorem prefix_of_byteLength_le {first second cs : List Char} (firstPrefix : first <+: cs)
    (secondPrefix : second <+: cs) (le : byteLength first ≤ byteLength second) :
    first <+: second := by
  rcases List.prefix_or_prefix_of_prefix firstPrefix secondPrefix with inside | ⟨back, rfl⟩
  · exact inside
  · have : back = [] := by
      rw [← byteLength_eq_zero]
      rw [byteLength_append] at le
      omega
    simp [this]

theorem takeBytes_of_append {front cs back : List Char} (eq : cs = front ++ back) :
    takeBytes (byteLength front) cs = front := by
  rw [eq, takeBytes_append]

/-- The slice between two beginnings of a text is what the longer one adds. -/
theorem slice_of_append (front middle back : List Char) {cs : List Char}
    (eq : cs = front ++ (middle ++ back)) :
    slice cs (byteLength front) (byteLength (front ++ middle)) = middle := by
  rw [eq, byteLength_append, slice_middle]

/-- Two slices that meet at a boundary make one slice. -/
theorem slice_append_slice {first second third cs : List Char} (firstPrefix : first <+: second)
    (secondPrefix : second <+: third) (thirdPrefix : third <+: cs) :
    slice cs (byteLength first) (byteLength second) ++
      slice cs (byteLength second) (byteLength third) =
        slice cs (byteLength first) (byteLength third) := by
  obtain ⟨one, rfl⟩ := firstPrefix
  obtain ⟨two, rfl⟩ := secondPrefix
  obtain ⟨back, rfl⟩ := thirdPrefix
  rw [slice_of_append first one (two ++ back) (by simp),
    slice_of_append (first ++ one) two back (by simp), List.append_assoc first one two,
    slice_of_append first (one ++ two) back (by simp)]

theorem isBoundary_byteLength (cs : List Char) : IsBoundary cs (byteLength cs) :=
  ⟨cs, [], (List.append_nil cs).symm, rfl⟩

theorem slice_part {cs : List Char} {start stop : Nat} (begins : IsBoundary cs start)
    (ends : IsBoundary cs stop) (before after : List Char) :
    slice (before ++ (cs ++ after)) (start + byteLength before) (stop + byteLength before) =
      slice cs start stop := by
  rw [Nat.add_comm start, Nat.add_comm stop]
  obtain ⟨front, back, eq, rfl⟩ := begins
  obtain ⟨whole, rest, eqWhole, rfl⟩ := ends
  rcases Nat.le_total (byteLength front) (byteLength whole) with le | le
  · obtain ⟨middle, rfl⟩ := prefix_of_byteLength_le ⟨back, eq.symm⟩ ⟨rest, eqWhole.symm⟩ le
    rw [eqWhole, ← byteLength_append, ← byteLength_append, ← List.append_assoc before front,
      slice_of_append (before ++ front) middle (rest ++ after) (by simp),
      slice_of_append front middle rest (by simp)]
  · have empty : byteLength whole - byteLength front = 0 := Nat.sub_eq_zero_of_le le
    have moved : byteLength before + byteLength whole - (byteLength before + byteLength front) =
        0 := by omega
    rw [slice, slice, empty, moved, takeBytes_zero, takeBytes_zero]

/-- Whether a character is beyond ASCII. -/
def isWide (c : Char) : Bool :=
  0x80 ≤ c.toNat

/-- The character with the number of a byte. -/
def ofOctet (octet : UInt8) : Char :=
  Char.ofNat octet.toNat

/-- The bytes of the UTF-8 form as characters. -/
def bytes (cs : List Char) : List Char :=
  (octets cs).map ofOctet

@[simp]
theorem bytes_nil : bytes [] = [] :=
  rfl

@[simp]
theorem bytes_append (front back : List Char) :
    bytes (front ++ back) = bytes front ++ bytes back := by
  simp [bytes]

@[simp]
theorem length_bytes (cs : List Char) : (bytes cs).length = byteLength cs := by
  simp [bytes]

theorem length_le_byteLength (cs : List Char) : cs.length ≤ byteLength cs := by
  induction cs with
  | nil => exact Nat.le_refl 0
  | cons c rest ih =>
    have positive := c.utf8Size_pos
    rw [List.length_cons, byteLength_cons]
    omega

theorem toNat_ofOctet (octet : UInt8) : (ofOctet octet).toNat = octet.toNat := by
  have valid : octet.toNat.isValidChar := Or.inl (by have := octet.toNat_lt; omega)
  rw [ofOctet, Char.ofNat, dif_pos valid]
  rfl

theorem lt_of_not_isWide {c : Char} (narrow : isWide c = false) : c.val.toNat < 0x80 := by
  simpa [isWide] using narrow

theorem utf8Size_of_not_isWide {c : Char} (narrow : isWide c = false) : c.utf8Size = 1 :=
  Char.utf8Size_eq_one_iff.2 (Nat.le_of_lt_succ (lt_of_not_isWide narrow))

theorem bytes_cons {c : Char} (narrow : isWide c = false) (rest : List Char) :
    bytes (c :: rest) = c :: bytes rest := by
  have small := lt_of_not_isWide narrow
  have encoded : String.utf8EncodeChar c = [UInt8.ofNat c.val.toNat] := by
    rw [String.utf8EncodeChar, if_pos (Nat.le_of_lt_succ small)]
  have number : c.toNat % 256 = c.toNat := Nat.mod_eq_of_lt (Nat.lt_trans small (by decide))
  simp [bytes, octets, encoded, ofOctet, number]

theorem isWide_of_mem_bytes {c : Char} (wide : isWide c = true) :
    ∀ byte ∈ bytes [c], isWide byte = true := by
  have big : ¬ c.val.toNat ≤ 127 := by
    simp only [isWide, decide_eq_true_eq] at wide
    have same : c.toNat = c.val.toNat := rfl
    omega
  have octetWide : ∀ octet ∈ String.utf8EncodeChar c, 0x80 ≤ octet.toNat := by
    rw [String.utf8EncodeChar, if_neg big]
    split
    · simp
      omega
    split
    · simp
      omega
    · simp
      omega
  intro byte member
  simp only [bytes, octets, List.flatMap_cons, List.flatMap_nil, List.append_nil, List.mem_map]
    at member
  obtain ⟨octet, inside, rfl⟩ := member
  simp only [isWide, toNat_ofOctet, octetWide octet inside, decide_true]

/-- A character is spelled by itself, or by bytes that are all beyond ASCII. -/
theorem bytes_singleton (c : Char) :
    ∃ first more, bytes [c] = first :: more ∧
      ((first = c ∧ more = [] ∧ isWide c = false) ∨
        (isWide c = true ∧ isWide first = true ∧ ∀ byte ∈ more, isWide byte = true)) := by
  cases wide : isWide c with
  | false => exact ⟨c, [], bytes_cons wide [], Or.inl ⟨rfl, rfl, rfl⟩⟩
  | true =>
    have allWide := isWide_of_mem_bytes wide
    have length := length_bytes [c]
    have positive := c.utf8Size_pos
    cases spelled : bytes [c] with
    | nil =>
      simp only [spelled, List.length_nil, byteLength_cons, byteLength_nil] at length
      omega
    | cons first more =>
      rw [spelled] at allWide
      exact ⟨first, more, rfl, Or.inr ⟨rfl, List.forall_mem_cons.1 allWide⟩⟩

theorem bytes_cons_eq (c : Char) (rest : List Char) :
    bytes (c :: rest) = bytes [c] ++ bytes rest := by
  rw [← bytes_append, List.singleton_append]

theorem ne_of_isWide {c d : Char} (wide : isWide c = true) (narrow : isWide d = false) : c ≠ d := by
  rintro rfl
  rw [wide] at narrow
  cases narrow

theorem isDigit_of_isWide {c : Char} (wide : isWide c = true) : c.isDigit = false := by
  simp only [isWide, Char.toNat, decide_eq_true_eq] at wide
  simp only [Char.isDigit, Bool.and_eq_false_iff, decide_eq_false_iff_not, UInt32.le_iff_toNat_le]
  right
  change ¬ c.val.toNat ≤ 57
  omega

theorem head?_bytes {d : Char} (narrow : isWide d = false) (cs : List Char) :
    ((bytes cs).head? == some d) = (cs.head? == some d) := by
  cases cs with
  | nil => rfl
  | cons c rest =>
    obtain ⟨first, more, spelled, kept⟩ := bytes_singleton c
    rw [bytes_cons_eq, spelled, List.cons_append, List.head?_cons, List.head?_cons]
    rcases kept with ⟨rfl, -, -⟩ | ⟨wide, firstWide, -⟩
    · rfl
    · rw [Option.some_beq_some, Option.some_beq_some,
        beq_false_of_ne (ne_of_isWide firstWide narrow), beq_false_of_ne (ne_of_isWide wide narrow)]

/-- A run of characters among which are all those beyond ASCII is a run of bytes. -/
theorem takeWhile_bytes {test : Char → Bool} (wide : ∀ c, isWide c = true → test c = true)
    (cs : List Char) : (bytes cs).takeWhile test = bytes (cs.takeWhile test) := by
  induction cs with
  | nil => rfl
  | cons c rest ih =>
    obtain ⟨first, more, spelled, kept⟩ := bytes_singleton c
    rcases kept with ⟨rfl, rfl, narrow⟩ | ⟨isWide, firstWide, moreWide⟩
    · rw [bytes_cons narrow, List.takeWhile_cons, List.takeWhile_cons, ih]
      split
      · rw [bytes_cons narrow]
      · rfl
    · have all : ∀ byte ∈ bytes [c], test byte = true := by
        rw [spelled]
        exact List.forall_mem_cons.2
          ⟨wide first firstWide, fun byte inside => wide byte (moreWide byte inside)⟩
      rw [bytes_cons_eq, List.takeWhile_append_of_pos all, ih,
        List.takeWhile_cons_of_pos (wide c isWide)]
      exact (bytes_cons_eq c _).symm

end CSurvey.Text
