import CSurvey.Json.Decode
import CSurvey.Proofs.Distinct

/-!
# Reading what was written

An object with distinct field names gives each of its fields by name, so a record
that is written as such an object is read back field by field.  Arrays are read
item by item, and counts as long as they fit into a word.
-/

namespace CSurvey.Json

theorem field?_of_mem {fields : List (String × Json)} (distinct : (fields.map (·.1)).Nodup)
    {name : String} {value : Json} (member : (name, value) ∈ fields) :
    (Json.obj fields).field? name = some value := by
  have reversed : (fields.reverse.map (·.1)).Nodup := by
    rwa [List.map_reverse, List.nodup_reverse]
  have inside : (name, value) ∈ fields.reverse := List.mem_reverse.2 member
  have found := find?_of_mem reversed inside
  dsimp only at found
  rw [field?, found, Option.map_some]

/-- The slots of an object that was written with the fields of a record. -/
theorem slots?_obj (fields : List (String × Json)) (distinct : (fields.map (·.1)).Nodup) :
    slots? (fields.map (·.1)) (.obj fields) = some (fields.map (fun field => .given field.2)) := by
  rw [slots?, objectSlots?, List.map_map]
  · congr 1
    refine List.map_congr_left (fun field member => ?_)
    rw [Function.comp_apply, field?_of_mem distinct member]
  · rintro items ⟨⟩

namespace Slot

variable {α β : Type} {decode : Json → Option α} {value : Json} {item : α}

/-- A field that can be read passes its value on. -/
theorem required_bind (read : decode value = some item) (next : α → Option β) :
    ((given value).required decode >>= next) = next item := by
  rw [required, read]
  rfl

theorem optional_bind (read : decode value = some item) (isThere : value ≠ .null)
    (next : Option α → Option β) : ((given value).optional decode >>= next) = next (some item) := by
  have decoded : (given value).optional decode = (decode value).map some := by
    cases value <;> first | rfl | exact absurd rfl isThere
  rw [decoded, read]
  rfl

theorem optional_absent_bind (next : Option α → Option β) :
    (absent.optional decode >>= next) = next none :=
  rfl

theorem withDefault_bind (read : decode value = some item) (default : α)
    (next : α → Option β) : ((given value).withDefault default decode >>= next) = next item := by
  rw [withDefault, read]
  rfl

end Slot

theorem str?_str (text : String) : str? (.str text) = some text :=
  rfl

theorem bool?_bool (value : Bool) : bool? (.bool value) = some value :=
  rfl

theorem float?_real (value : Float) : float? (.real value) = some value :=
  rfl

theorem nat?_nat {n : Nat} (fits : n < wordSize) : nat? (.nat n) = some n := by
  simp [nat?, natBelow?, nat, fits]

section Lists

theorem mapM_eq_some_iff {α β : Type} {decode : α → Option β} {items : List α} {read : List β} :
    items.mapM decode = some read ↔ items.map decode = read.map some := by
  induction items generalizing read with
  | nil => cases read <;> simp
  | cons item rest ih =>
    rw [List.mapM_cons, List.map_cons]
    cases decode item <;> cases read <;> simp [Option.bind_eq_some_iff, ih, and_comm]

theorem mapM_map {α β : Type} {encode : α → β} {decode : β → Option α} {items : List α}
    (back : ∀ item ∈ items, decode (encode item) = some item) :
    (items.map encode).mapM decode = some items := by
  rw [mapM_eq_some_iff, List.map_map]
  exact List.map_congr_left back

variable {α : Type} {encode : α → Json} {decode : Json → Option α}

theorem list?_list {items : List α} (back : ∀ item ∈ items, decode (encode item) = some item) :
    list? decode (.list encode items) = some items :=
  mapM_map back

theorem strings?_strings (names : List String) : strings? (.strings names) = some names :=
  list?_list (fun name _ => str?_str name)

theorem foldl_latest (kept : List (String × Json)) {fields : List (String × Json)}
    (distinct : ((kept ++ fields).map (·.1)).Nodup) :
    fields.foldl (fun (kept : List (String × Json)) field =>
      (kept.filter (fun other => other.1 != field.1)) ++ [field]) kept = kept ++ fields := by
  induction fields generalizing kept with
  | nil => exact (List.append_nil kept).symm
  | cons field rest ih =>
    have others : kept.filter (fun other => other.1 != field.1) = kept := by
      refine List.filter_eq_self.2 (fun other member => ?_)
      rw [List.map_append, List.nodup_append] at distinct
      have different := distinct.2.2 other.1 (List.mem_map_of_mem member) field.1 (by simp)
      simpa using different
    rw [List.foldl_cons, others, ih _ (by simpa using distinct), List.append_assoc]
    rfl

theorem pairs?_obj {pairs : List (String × α)} (distinct : (pairs.map (·.1)).Nodup)
    (back : ∀ pair ∈ pairs, decode (encode pair.2) = some pair.2) :
    (Json.obj (pairs.map (fun pair => (pair.1, encode pair.2)))).pairs? decode = some pairs := by
  have names : ((pairs.map (fun pair => (pair.1, encode pair.2))).map (·.1)).Nodup := by
    rwa [List.map_map]
  have latest := foldl_latest [] (by rwa [List.nil_append])
  rw [pairs?, latest, List.nil_append]
  refine mapM_map (fun pair member => ?_)
  rw [back pair member]
  rfl

end Lists

end CSurvey.Json
