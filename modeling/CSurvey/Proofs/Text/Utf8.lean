import CSurvey.Proofs.Json.Decode
import CSurvey.Text.Utf8
import Mathlib.Data.List.Basic
import Mathlib.Tactic.SplitIfs

/-!
# Well-formed UTF-8

The reader of octets gives back the characters that the octets encode, and it finds
nothing ill-formed only in what encodes some characters.  An octet that begins a
character leaves the reader owing octets; whatever octets it then accepts, they
complete the encoding of the character it ends with.
-/

namespace CSurvey.Text.Utf8

/-- The octets are the UTF-8 form of some text. -/
def WellFormed (octets : List UInt8) : Prop :=
  octets.toByteArray.IsValidUTF8

@[simp]
theorem encode_nil : encode [] = [] :=
  rfl

@[simp]
theorem encode_cons (c : Char) (cs : List Char) :
    encode (c :: cs) = String.utf8EncodeChar c ++ encode cs :=
  rfl

theorem wellFormed_iff {octets : List UInt8} :
    WellFormed octets ↔ ∃ cs, octets = encode cs := by
  constructor
  · rintro ⟨cs, valid⟩
    exact ⟨cs, List.toByteArray_inj.1 valid⟩
  · rintro ⟨cs, rfl⟩
    exact ⟨cs, rfl⟩

section Reader

variable {octet : UInt8} {octets : List UInt8} {begun opened : Pending} {c : Char}

theorem pieces_done (done : lead octet.toNat = .done c) :
    pieces none (octet :: octets) = some c :: pieces none octets := by
  rw [pieces, done]
  rfl

theorem pieces_opens (opens : lead octet.toNat = .opens opened) :
    pieces none (octet :: octets) = pieces (some opened) octets := by
  rw [pieces, opens]
  rfl

theorem pieces_illFormed (ill : lead octet.toNat = .illFormed) :
    pieces none (octet :: octets) = none :: pieces none octets := by
  rw [pieces, ill]
  rfl

theorem pieces_last (low : begun.low ≤ octet.toNat) (high : octet.toNat ≤ begun.high)
    (last : begun.owed ≤ 1) :
    pieces (some begun) (octet :: octets) =
      some (Char.ofNat (begun.value * 64 + (octet.toNat - 0x80))) :: pieces none octets := by
  simp [pieces, low, high, last]

theorem pieces_more (low : begun.low ≤ octet.toNat) (high : octet.toNat ≤ begun.high)
    (more : 1 < begun.owed) :
    pieces (some begun) (octet :: octets) =
      pieces (some ⟨begun.owed - 1, 0x80, 0xBF, begun.value * 64 + (octet.toNat - 0x80)⟩)
        octets := by
  simp [pieces, low, high, Nat.not_le.2 more]

theorem pieces_breaks (outside : ¬ (begun.low ≤ octet.toNat ∧ octet.toNat ≤ begun.high)) :
    pieces (some begun) (octet :: octets) = none :: pieces none (octet :: octets) := by
  rw [pieces, pieces]
  simp only [Bool.and_eq_true, decide_eq_true_eq, if_neg outside]
  cases lead octet.toNat <;> rfl

end Reader

section Lead

variable {octet : Nat}

theorem lead_one (high : octet < 0x80) : lead octet = .done (Char.ofNat octet) := by
  rw [lead, if_pos high]

theorem lead_two (low : 0xC2 ≤ octet) (high : octet < 0xE0) :
    lead octet = .opens ⟨1, 0x80, 0xBF, octet - 0xC0⟩ := by
  unfold lead
  rw [if_neg (by omega), if_neg (by omega), if_pos high]

/-- The second of three octets is kept from being overlong and from giving a surrogate. -/
theorem lead_three (low : 0xE0 ≤ octet) (high : octet < 0xF0) :
    lead octet = .opens ⟨2, if octet = 0xE0 then 0xA0 else 0x80,
      if octet = 0xED then 0x9F else 0xBF, octet - 0xE0⟩ := by
  unfold lead
  rw [if_neg (by omega), if_neg (by omega), if_neg (by omega)]
  by_cases first : octet = 0xE0
  · simp [first]
  · by_cases surrogate : octet = 0xED
    · simp [surrogate]
    · simp [first, surrogate, high]

/-- The second of four octets is kept from being overlong and from passing the last character. -/
theorem lead_four (low : 0xF0 ≤ octet) (high : octet < 0xF5) :
    lead octet = .opens ⟨3, if octet = 0xF0 then 0x90 else 0x80,
      if octet = 0xF4 then 0x8F else 0xBF, octet - 0xF0⟩ := by
  unfold lead
  rw [if_neg (by omega), if_neg (by omega), if_neg (by omega), if_neg (by omega),
    if_neg (by omega), if_neg (by omega)]
  by_cases first : octet = 0xF0
  · simp [first]
  · by_cases last : octet = 0xF4
    · simp [last]
    · rw [if_neg first, if_pos (by omega), if_neg first, if_neg last]

theorem lead_illFormed (outside : 0x80 ≤ octet ∧ octet < 0xC2 ∨ 0xF5 ≤ octet) :
    lead octet = .illFormed := by
  unfold lead
  rcases outside with ⟨low, high⟩ | past
  · rw [if_neg (by omega), if_pos high]
  · repeat rw [if_neg (by omega)]

theorem of_lead_done {c : Char} (done : lead octet = .done c) :
    octet < 0x80 ∧ c = Char.ofNat octet := by
  rcases Nat.lt_or_ge octet 0x80 with one | more
  · rw [lead_one one] at done
    exact ⟨one, (Lead.done.inj done).symm⟩
  · unfold lead at done
    rw [if_neg (Nat.not_lt.2 more)] at done
    split_ifs at done

end Lead

section Encoding

variable {first second third fourth : UInt8} {value : Nat}

theorem toNat_ofNat (valid : value.isValidChar) : (Char.ofNat value).val.toNat = value := by
  rw [Char.ofNat, dif_pos valid]
  rfl

theorem utf8EncodeChar_one (high : first.toNat < 0x80) :
    String.utf8EncodeChar (Char.ofNat first.toNat) = [first] := by
  rw [String.utf8EncodeChar, toNat_ofNat (by left; omega), if_pos (by omega), UInt8.ofNat_toNat]

theorem utf8EncodeChar_two (low : 0x80 ≤ value) (high : value < 0x800)
    (one : first.toNat = 0xC0 + value / 64) (two : second.toNat = 0x80 + value % 64) :
    String.utf8EncodeChar (Char.ofNat value) = [first, second] := by
  rw [String.utf8EncodeChar, toNat_ofNat (by left; omega)]
  simp only [if_neg (show ¬ value ≤ 127 by omega), if_pos (show value ≤ 2047 by omega),
    List.cons.injEq, UInt8.ofNat_eq_iff_mod_eq_toNat, and_true]
  omega

theorem utf8EncodeChar_three (low : 0x800 ≤ value) (high : value < 0x10000)
    (valid : value.isValidChar) (one : first.toNat = 0xE0 + value / 4096)
    (two : second.toNat = 0x80 + value / 64 % 64) (three : third.toNat = 0x80 + value % 64) :
    String.utf8EncodeChar (Char.ofNat value) = [first, second, third] := by
  rw [String.utf8EncodeChar, toNat_ofNat valid]
  simp only [if_neg (show ¬ value ≤ 127 by omega), if_neg (show ¬ value ≤ 2047 by omega),
    if_pos (show value ≤ 65535 by omega), List.cons.injEq, UInt8.ofNat_eq_iff_mod_eq_toNat,
    and_true]
  omega

theorem utf8EncodeChar_four (low : 0x10000 ≤ value) (high : value < 0x110000)
    (one : first.toNat = 0xF0 + value / 262144) (two : second.toNat = 0x80 + value / 4096 % 64)
    (three : third.toNat = 0x80 + value / 64 % 64) (four : fourth.toNat = 0x80 + value % 64) :
    String.utf8EncodeChar (Char.ofNat value) = [first, second, third, fourth] := by
  rw [String.utf8EncodeChar, toNat_ofNat (by right; omega)]
  simp only [if_neg (show ¬ value ≤ 127 by omega), if_neg (show ¬ value ≤ 2047 by omega),
    if_neg (show ¬ value ≤ 65535 by omega), List.cons.injEq, UInt8.ofNat_eq_iff_mod_eq_toNat,
    and_true]
  omega

end Encoding

/-- Whatever octets the reader accepts after `front`, they complete the encoding of a character. -/
inductive Completes : List UInt8 → Pending → Prop
  | last {front : List UInt8} {begun : Pending} (owed : begun.owed ≤ 1)
      (spells : ∀ octet : UInt8, begun.low ≤ octet.toNat → octet.toNat ≤ begun.high →
        String.utf8EncodeChar (Char.ofNat (begun.value * 64 + (octet.toNat - 0x80))) =
          front ++ [octet]) :
      Completes front begun
  | more {front : List UInt8} {begun : Pending} (owed : 1 < begun.owed)
      (later : ∀ octet : UInt8, begun.low ≤ octet.toNat → octet.toNat ≤ begun.high →
        Completes (front ++ [octet])
          ⟨begun.owed - 1, 0x80, 0xBF, begun.value * 64 + (octet.toNat - 0x80)⟩) :
      Completes front begun

/-- An octet that begins a character begins its encoding. -/
theorem completes_of_lead {first : UInt8} {opened : Pending}
    (opens : lead first.toNat = .opens opened) : Completes [first] opened := by
  rcases Nat.lt_or_ge first.toNat 0x80 with one | more
  · rw [lead_one one] at opens
    cases opens
  rcases Nat.lt_or_ge first.toNat 0xC2 with ill | more
  · rw [lead_illFormed (by omega)] at opens
    cases opens
  rcases Nat.lt_or_ge first.toNat 0xE0 with two | more
  · rw [lead_two more two] at opens
    obtain rfl := Lead.opens.inj opens
    refine .last (Nat.le_refl _) fun second low high => ?_
    dsimp only at low high ⊢
    exact utf8EncodeChar_two (by omega) (by omega) (by omega) (by omega)
  rcases Nat.lt_or_ge first.toNat 0xF0 with three | more
  · rw [lead_three more three] at opens
    obtain rfl := Lead.opens.inj opens
    refine .more Nat.one_lt_two fun second low high => .last (Nat.le_refl _) fun third => ?_
    dsimp only at low high ⊢
    intro low' high'
    have low : 0x80 ≤ second.toNat ∧ (first.toNat = 0xE0 → 0xA0 ≤ second.toNat) := by
      split at low <;> omega
    have high : second.toNat ≤ 0xBF ∧ (first.toNat = 0xED → second.toNat ≤ 0x9F) := by
      split at high <;> omega
    refine utf8EncodeChar_three ?_ ?_ ?_ ?_ ?_ ?_
    case refine_3 =>
      rw [Nat.isValidChar]
      omega
    all_goals omega
  rcases Nat.lt_or_ge first.toNat 0xF5 with four | ill
  · rw [lead_four more four] at opens
    obtain rfl := Lead.opens.inj opens
    refine .more (by decide : 1 < 3) fun second low high => .more Nat.one_lt_two fun third => ?_
    dsimp only at low high ⊢
    refine fun low' high' => .last (Nat.le_refl _) fun fourth low'' high'' => ?_
    have low : 0x80 ≤ second.toNat ∧ (first.toNat = 0xF0 → 0x90 ≤ second.toNat) := by
      split at low <;> omega
    have high : second.toNat ≤ 0xBF ∧ (first.toNat = 0xF4 → second.toNat ≤ 0x8F) := by
      split at high <;> omega
    dsimp only at low'' high'' ⊢
    refine utf8EncodeChar_four ?_ ?_ ?_ ?_ ?_ ?_
    all_goals omega
  · rw [lead_illFormed (.inr ill)] at opens
    cases opens

/-- What the reader gives without a gap spells the octets it has read. -/
theorem eq_encode_of_pieces {octets : List UInt8} {cs : List Char} :
    (pieces none octets = cs.map some → octets = encode cs) ∧
      ∀ begun front, Completes front begun → pieces (some begun) octets = cs.map some →
        front ++ octets = encode cs := by
  induction octets generalizing cs with
  | nil =>
    constructor
    · intro read
      rw [pieces, eq_comm, List.map_eq_nil_iff] at read
      rw [read]
      rfl
    · intro begun front completes read
      cases cs <;> simp [pieces] at read
  | cons octet octets ih =>
    constructor
    · intro read
      cases leads : lead octet.toNat with
      | done c =>
        obtain ⟨one, rfl⟩ := of_lead_done leads
        rw [pieces_done leads] at read
        obtain ⟨c, cs, rfl, same, later⟩ := List.map_eq_cons_iff.1 read.symm
        obtain rfl := Option.some.inj same
        rw [encode_cons, utf8EncodeChar_one one, ← ih.1 later.symm]
        rfl
      | opens opened =>
        rw [pieces_opens leads] at read
        exact ih.2 opened [octet] (completes_of_lead leads) read
      | illFormed =>
        rw [pieces_illFormed leads] at read
        cases cs <;> simp at read
    · intro begun front completes read
      by_cases inside : begun.low ≤ octet.toNat ∧ octet.toNat ≤ begun.high
      · cases completes with
        | last owed spells =>
          rw [pieces_last inside.1 inside.2 owed] at read
          obtain ⟨c, cs, rfl, same, later⟩ := List.map_eq_cons_iff.1 read.symm
          rw [encode_cons, Option.some.inj same, spells octet inside.1 inside.2,
            ← ih.1 later.symm, List.append_assoc]
          rfl
        | more owed later =>
          rw [pieces_more inside.1 inside.2 owed] at read
          rw [← ih.2 _ _ (later octet inside.1 inside.2) read, List.append_assoc]
          rfl
      · rw [pieces_breaks inside] at read
        cases cs <;> simp at read

theorem exists_octet (value : Nat) (fits : value < 256) : ∃ octet : UInt8, octet.toNat = value :=
  ⟨UInt8.ofNat value, UInt8.toNat_ofNat_of_lt' fits⟩

/-- The reader gives back a character from its encoding. -/
theorem pieces_utf8EncodeChar (c : Char) (octets : List UInt8) :
    pieces none (String.utf8EncodeChar c ++ octets) = some c :: pieces none octets := by
  obtain ⟨value, valid, rfl⟩ : ∃ value, value.isValidChar ∧ Char.ofNat value = c :=
    ⟨c.toNat, c.valid, Char.ofNat_toNat c⟩
  have bounds : value < 0xD800 ∨ 0xDFFF < value ∧ value < 0x110000 := valid
  rcases Nat.lt_or_ge value 0x80 with one | more
  · obtain ⟨first, rfl⟩ := exists_octet value (by omega)
    rw [utf8EncodeChar_one one, List.singleton_append, pieces_done (lead_one one)]
  rcases Nat.lt_or_ge value 0x800 with two | more'
  · obtain ⟨first, first_eq⟩ := exists_octet (0xC0 + value / 64) (by omega)
    obtain ⟨second, second_eq⟩ := exists_octet (0x80 + value % 64) (by omega)
    rw [utf8EncodeChar_two more two first_eq second_eq, List.cons_append, List.singleton_append,
      pieces_opens (lead_two (by omega) (by omega)), pieces_last]
    · refine congrArg (fun value => some (Char.ofNat value) :: pieces none octets) ?_
      dsimp only
      omega
    all_goals dsimp only
    all_goals omega
  obtain ⟨last, last_eq⟩ := exists_octet (0x80 + value % 64) (by omega)
  obtain ⟨third, third_eq⟩ := exists_octet (0x80 + value / 64 % 64) (by omega)
  rcases Nat.lt_or_ge value 0x10000 with three | more'
  · obtain ⟨first, first_eq⟩ := exists_octet (0xE0 + value / 4096) (by omega)
    rw [utf8EncodeChar_three (by omega) three valid first_eq third_eq last_eq, List.cons_append,
      List.cons_append, List.singleton_append, pieces_opens (lead_three (by omega) (by omega)),
      pieces_more, pieces_last]
    · refine congrArg (fun value => some (Char.ofNat value) :: pieces none octets) ?_
      dsimp only
      omega
    all_goals dsimp only
    all_goals first | omega | split <;> omega
  · obtain ⟨first, first_eq⟩ := exists_octet (0xF0 + value / 262144) (by omega)
    obtain ⟨second, second_eq⟩ := exists_octet (0x80 + value / 4096 % 64) (by omega)
    rw [utf8EncodeChar_four more' (by omega) first_eq second_eq third_eq last_eq, List.cons_append,
      List.cons_append, List.cons_append, List.singleton_append,
      pieces_opens (lead_four (by omega) (by omega)), pieces_more, pieces_more, pieces_last]
    · refine congrArg (fun value => some (Char.ofNat value) :: pieces none octets) ?_
      dsimp only
      omega
    all_goals dsimp only
    all_goals first | omega | split <;> omega

theorem pieces_encode (cs : List Char) : pieces none (encode cs) = cs.map some := by
  induction cs with
  | nil => rfl
  | cons c cs ih => rw [encode_cons, pieces_utf8EncodeChar, ih, List.map_cons]

/-- Nothing ill-formed is found in exactly the encodings. -/
theorem pieces_eq_map_some_iff {octets : List UInt8} {cs : List Char} :
    pieces none octets = cs.map some ↔ octets = encode cs := by
  constructor
  · exact eq_encode_of_pieces.1
  · rintro rfl
    exact pieces_encode cs

theorem decode?_eq_some_iff {octets : List UInt8} {cs : List Char} :
    decode? octets = some cs ↔ octets = encode cs := by
  rw [decode?, Json.mapM_eq_some_iff, List.map_id, pieces_eq_map_some_iff]

theorem isSome_decode?_iff {octets : List UInt8} :
    (decode? octets).isSome = true ↔ WellFormed octets := by
  rw [wellFormed_iff, Option.isSome_iff_exists]
  exact exists_congr fun cs => decode?_eq_some_iff

instance (octets : List UInt8) : Decidable (WellFormed octets) :=
  decidable_of_iff _ isSome_decode?_iff

theorem decodeLossy_encode (cs : List Char) : decodeLossy (encode cs) = cs := by
  rw [decodeLossy, pieces_encode, List.map_map]
  exact List.map_id cs

end CSurvey.Text.Utf8
