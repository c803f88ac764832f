import CSurvey.Files.Tree
import CSurvey.Proofs.Sorted
import Mathlib.Data.List.Nodup
import Mathlib.Data.List.TakeWhile

/-!
# Gathered files

A walk comes upon each file to which no excluded name leads, once, by the names that
lead to it.  Names are told apart where they stand in one directory, so those that
lead to two files differ, and sorting does away with the order of the walk.
-/

namespace CSurvey

namespace Entry

/-- No directory has two entries of one name. -/
inductive Proper : Entry → Prop
  | file : Proper file
  | other : Proper other
  | directory {entries : List (FileName × Entry)} (distinct : (entries.map Prod.fst).Nodup)
      (below : ∀ child ∈ entries, Proper child.2) : Proper (directory entries)

variable {entry found : Entry} {name : FileName} {names : List FileName}
  {entries : List (FileName × Entry)}

theorem lookup_eq_some_iff (distinct : (entries.map Prod.fst).Nodup) :
    entries.lookup name = some entry ↔ (name, entry) ∈ entries := by
  induction entries with
  | nil => simp
  | cons head rest ih =>
    obtain ⟨held, kept⟩ := head
    rw [List.map_cons, List.nodup_cons] at distinct
    by_cases same : name = held
    · subst same
      have fresh : (name, entry) ∉ rest := fun member =>
        distinct.1 (List.mem_map.2 ⟨_, member, rfl⟩)
      simp [fresh, eq_comm]
    · simp [List.lookup_cons, beq_eq_false_iff_ne.2 same, same, ih distinct.2]

theorem isFile_iff : entry.isFile = true ↔ entry = .file := by
  cases entry <;> simp [isFile]

theorem isDirectory_of_at?_cons (leads : entry.at? (name :: names) = some found) :
    entry.isDirectory = true := by
  cases entry with
  | directory => rfl
  | file | other => cases leads

theorem at?_cons_eq_some_iff (distinct : (entries.map Prod.fst).Nodup) :
    (directory entries).at? (name :: names) = some found ↔
      ∃ child, (name, child) ∈ entries ∧ child.at? names = some found := by
  rw [at?, Option.bind_eq_some_iff]
  exact exists_congr fun child => and_congr_left fun _ => lookup_eq_some_iff distinct

section Insert

variable {f : Entry → Entry}

theorem mem_map_fst_change {other : FileName} :
    other ∈ (change name f entries).map Prod.fst ↔
      other = name ∨ other ∈ entries.map Prod.fst := by
  induction entries with
  | nil => simp [change]
  | cons head rest ih =>
    rw [change]
    split
    · rename_i same
      simp [same]
    · rw [List.map_cons, List.mem_cons, ih, List.map_cons, List.mem_cons, or_left_comm]

theorem nodup_change (distinct : (entries.map Prod.fst).Nodup) :
    ((change name f entries).map Prod.fst).Nodup := by
  induction entries with
  | nil => simp [change]
  | cons head rest ih =>
    rw [List.map_cons, List.nodup_cons] at distinct
    rw [change]
    split
    · rename_i same
      rw [List.map_cons, List.nodup_cons]
      exact same ▸ distinct
    · rename_i other
      rw [List.map_cons, List.nodup_cons, mem_map_fst_change]
      exact ⟨not_or.2 ⟨other, distinct.1⟩, ih distinct.2⟩

theorem proper_change (proper : ∀ {entry : Entry}, entry.Proper → (f entry).Proper)
    (below : ∀ child ∈ entries, child.2.Proper) :
    ∀ child ∈ change name f entries, child.2.Proper := by
  have empty : (directory []).Proper := .directory .nil (fun _ member => nomatch member)
  induction entries with
  | nil => simpa [change] using proper empty
  | cons head rest ih =>
    rw [List.forall_mem_cons] at below
    rw [change]
    split
    · exact List.forall_mem_cons.2 ⟨proper below.1, below.2⟩
    · exact List.forall_mem_cons.2 ⟨below.1, ih below.2⟩

theorem Proper.insert (proper : entry.Proper) (names : List FileName) :
    (entry.insert names).Proper := by
  induction names generalizing entry with
  | nil => exact .file
  | cons name names ih =>
    cases proper with
    | file | other =>
      exact .directory (by simp [change, entries]) (proper_change ih (by simp [entries]))
    | directory distinct below => exact .directory (nodup_change distinct) (proper_change ih below)

theorem proper_ofFiles (files : List (List FileName)) : (ofFiles files).Proper := by
  have empty : (directory []).Proper := .directory .nil (fun _ member => nomatch member)
  rw [ofFiles]
  generalize directory [] = entry at empty
  induction files generalizing entry with
  | nil => exact empty
  | cons names files ih => exact ih _ (empty.insert names)

end Insert

end Entry

/-- A directory of a file tree has its names once. -/
theorem FileTree.proper_list {tree : FileTree} {path : String} {entry : Entry}
    (lies : tree.disk.list path = some entry) : entry.Proper := by
  simp only [disk] at lies
  split at lies
  · cases lies
    exact .file
  · cases lies
    exact Entry.proper_ofFiles _
  · cases lies

namespace Gather

open Entry

variable {extra : List String} {name : FileName} {names : List FileName} {entry : Entry}

/-- A name by which directories are left out. -/
def IsExcludedName (extra : List String) (name : FileName) : Prop :=
  ∃ word ∈ excluded ++ extra, FileName.ofText word = name

theorem isExcluded_eq_false_iff {depth : Nat} :
    isExcluded extra depth name entry = false ↔
      (entry.isDirectory = true → 0 < depth → ¬ IsExcludedName extra name) := by
  rw [isExcluded, Bool.eq_false_iff, ne_eq, Bool.and_eq_true, Bool.and_eq_true, decide_eq_true_eq,
    List.any_eq_true]
  simp only [beq_iff_eq, and_imp, not_and]
  rfl

section Walk

variable {visited : Visit}

theorem visit_eq : visit extra names name entry =
    if isExcluded extra names.length name entry then []
    else ⟨names, name, entry⟩ :: visitAll extra names entry.entries := by
  cases entry with
  | file | other => rw [visit, entries, visitAll] <;> nofun
  | directory => rw [visit, entries]

theorem visitAll_eq (entries : List (FileName × Entry)) : visitAll extra names entries =
    entries.flatMap (fun child => visit extra (names ++ [child.1]) child.1 child.2) := by
  induction entries with
  | nil => rfl
  | cons head rest ih => rw [visitAll, ih, List.flatMap_cons]

theorem mem_visitAll {entries : List (FileName × Entry)} :
    visited ∈ visitAll extra names entries ↔
      ∃ child ∈ entries, visited ∈ visit extra (names ++ [child.1]) child.1 child.2 := by
  rw [visitAll_eq, List.mem_flatMap]

/-- What is come upon from an entry on is that entry, or is come upon from one below. -/
theorem mem_visit :
    visited ∈ visit extra names name entry ↔ isExcluded extra names.length name entry = false ∧
      (visited = ⟨names, name, entry⟩ ∨
        ∃ child ∈ entry.entries, visited ∈ visit extra (names ++ [child.1]) child.1 child.2) := by
  rw [visit_eq]
  cases isExcluded extra names.length name entry with
  | true => simp
  | false => simp [mem_visitAll]

/-- The names at which an entry is come upon begin with those at which the walk began. -/
theorem prefix_of_mem_visit (proper : entry.Proper)
    (member : visited ∈ visit extra names name entry) : names <+: visited.names := by
  induction proper generalizing names name with
  | file | other =>
    obtain ⟨-, rfl | ⟨child, nothing, -⟩⟩ := mem_visit.1 member
    · exact List.prefix_rfl
    · cases nothing
  | directory distinct below ih =>
    obtain ⟨-, rfl | ⟨child, held, later⟩⟩ := mem_visit.1 member
    · exact List.prefix_rfl
    · exact (List.prefix_append ..).trans (ih child held later)

/-- Nothing is come upon twice. -/
theorem nodup_visit (proper : entry.Proper) :
    ((visit extra names name entry).map Visit.names).Nodup := by
  induction proper generalizing names name with
  | file | other =>
    rw [visit_eq]
    split <;> simp [entries, visitAll]
  | @directory entries distinct below ih =>
    rw [visit_eq]
    split
    · exact .nil
    · rw [List.map_cons, List.nodup_cons]
      constructor
      · intro again
        obtain ⟨visited, later, same⟩ := List.mem_map.1 again
        obtain ⟨child, held, later⟩ := mem_visitAll.1 later
        have longer := (prefix_of_mem_visit (below child held) later).length_le
        rw [same, List.length_append, List.length_singleton] at longer
        exact Nat.not_succ_le_self _ longer
      · rw [visitAll_eq, List.map_flatMap, List.nodup_flatMap]
        refine ⟨fun child held => ih child held, (List.pairwise_map.1 distinct).imp_of_mem ?_⟩
        intro one two oneHeld twoHeld apart reached underOne underTwo
        obtain ⟨first, fromOne, rfl⟩ := List.mem_map.1 underOne
        obtain ⟨second, fromTwo, same⟩ := List.mem_map.1 underTwo
        have belowOne := prefix_of_mem_visit (below one oneHeld) fromOne
        have belowTwo := prefix_of_mem_visit (below two twoHeld) fromTwo
        rw [same] at belowTwo
        have equal := List.prefix_of_prefix_length_le belowOne belowTwo (by simp)
        exact apart (by simpa using equal.eq_of_length (by simp))

/-- Names lead to a file of that entry, and none of them but the last is excluded. -/
def Reaches (extra : List String) (entry : Entry) (names : List FileName) : Prop :=
  entry.at? names = some .file ∧ ∀ name ∈ names.dropLast, ¬ IsExcludedName extra name

/-- A directory on the way is looked into, and what is reached at once is a file. -/
theorem reaches_cons_iff {entries : List (FileName × Entry)} (depth : Nat)
    (distinct : (entries.map Prod.fst).Nodup) :
    Reaches extra (directory entries) (name :: names) ↔
      ∃ child, (name, child) ∈ entries ∧ isExcluded extra (depth + 1) name child = false ∧
        Reaches extra child names := by
  have passes {child : Entry} (found : child.at? names = some .file) :
      isExcluded extra (depth + 1) name child = false ↔
        (names ≠ [] → ¬ IsExcludedName extra name) := by
    rw [isExcluded_eq_false_iff]
    cases names with
    | nil =>
      obtain rfl : child = .file := Option.some.inj found
      simp [isDirectory]
    | cons => simp [isDirectory_of_at?_cons found]
  have steps : (∀ step ∈ (name :: names).dropLast, ¬ IsExcludedName extra step) ↔
      (names ≠ [] → ¬ IsExcludedName extra name) ∧
        ∀ step ∈ names.dropLast, ¬ IsExcludedName extra step := by
    cases names <;> simp
  rw [Reaches, at?_cons_eq_some_iff distinct, steps]
  constructor
  · rintro ⟨⟨child, held, found⟩, free, later⟩
    exact ⟨child, held, (passes found).2 free, found, later⟩
  · rintro ⟨child, held, kept, found, later⟩
    exact ⟨⟨child, held, found⟩, (passes found).1 kept, later⟩

/-- A file is come upon if names lead to it none of which, but the last, is excluded. -/
theorem file_mem_visit (proper : entry.Proper) (file : visited.entry = .file) :
    visited ∈ visit extra names name entry ↔ isExcluded extra names.length name entry = false ∧
      ∃ below, visited = ⟨names ++ below, below.getLastD name, .file⟩ ∧
        Reaches extra entry below := by
  induction proper generalizing names name with
  | file =>
    rw [mem_visit]
    refine and_congr_right fun _ => ⟨?_, ?_⟩
    · rintro (rfl | ⟨child, nothing, -⟩)
      · exact ⟨[], by simp, rfl, nofun⟩
      · cases nothing
    · rintro ⟨below, rfl, found, -⟩
      cases below with
      | nil => exact .inl (by simp)
      | cons => cases found
  | other =>
    rw [mem_visit]
    refine and_congr_right fun _ => ⟨?_, ?_⟩
    · rintro (rfl | ⟨child, nothing, -⟩)
      · cases file
      · cases nothing
    · rintro ⟨below, -, found, -⟩
      cases below <;> cases found
  | @directory entries distinct below ih =>
    rw [mem_visit]
    refine and_congr_right fun _ => ⟨?_, ?_⟩
    · rintro (rfl | ⟨child, held, later⟩)
      · cases file
      · obtain ⟨kept, rest, rfl, reaches⟩ := (ih child held).1 later
        rw [List.length_append, List.length_singleton] at kept
        refine ⟨child.1 :: rest, ?_, (reaches_cons_iff _ distinct).2 ⟨child.2, held, kept, reaches⟩⟩
        rw [List.append_assoc, List.singleton_append, List.getLastD_cons]
    · rintro ⟨below, rfl, reaches⟩
      cases below with
      | nil => cases reaches.1
      | cons first rest =>
        obtain ⟨child, held, kept, reaches⟩ :=
          (reaches_cons_iff names.length distinct).1 reaches
        refine .inr ⟨(first, child), held, (ih _ held).2 ⟨?_, rest, ?_, reaches⟩⟩
        · rw [List.length_append, List.length_singleton]
          exact kept
        · rw [List.append_assoc, List.singleton_append, List.getLastD_cons]

end Walk

section Extension

/-- A small letter stands for itself and for the capital one. -/
theorem lower_eq_iff {octet letter : UInt8} (small : 0x61 ≤ letter ∧ letter ≤ 0x7A) :
    lower octet = letter ↔ octet = letter ∨ octet = letter - 0x20 := by
  have below : (letter - 0x20).toNat = letter.toNat - 0x20 :=
    UInt8.toNat_sub_of_le _ _ (UInt8.le_trans (by decide) small.1)
  simp only [UInt8.le_iff_toNat_le] at small
  rw [lower, ← UInt8.toNat_inj, ← UInt8.toNat_inj, ← UInt8.toNat_inj, below]
  split
  · rename_i capital
    simp only [Bool.and_eq_true, decide_eq_true_eq, UInt8.le_iff_toNat_le] at capital
    rw [UInt8.toNat_add]
    simp only [UInt8.reduceToNat] at *
    omega
  · rename_i other
    simp only [Bool.and_eq_true, decide_eq_true_eq, UInt8.le_iff_toNat_le] at other
    simp only [UInt8.reduceToNat] at *
    omega

theorem ne_dot_of_not_mem {name : FileName} (plain : 0x2E ∉ name) :
    ∀ octet ∈ name.reverse, (octet != 0x2E) = true := by
  intro octet member
  rw [bne_iff_ne]
  rintro rfl
  exact plain (List.mem_reverse.1 member)

theorem extension?_append {before extension : FileName} (plain : 0x2E ∉ extension) :
    extension? (before ++ 0x2E :: extension) = if before = [] then none else some extension := by
  have backward : (before ++ 0x2E :: extension).reverse =
      extension.reverse ++ 0x2E :: before.reverse := by simp
  have tail : (extension.reverse ++ 0x2E :: before.reverse).takeWhile (fun octet => octet != 0x2E) =
      extension.reverse := by
    rw [List.takeWhile_append_of_pos (ne_dot_of_not_mem plain)]
    simp
  rw [extension?, backward, tail, List.reverse_reverse]
  cases before <;> simp

theorem extension?_of_not_mem {name : FileName} (plain : 0x2E ∉ name) :
    extension? name = none := by
  rw [extension?, List.takeWhile_eq_self_iff.2 (ne_dot_of_not_mem plain)]
  exact if_neg (by omega)

/-- The extension follows the last dot, before which something stands. -/
theorem extension?_eq_some_iff {name extension : FileName} :
    extension? name = some extension ↔
      ∃ before, before ≠ [] ∧ name = before ++ 0x2E :: extension ∧ 0x2E ∉ extension := by
  constructor
  · intro found
    by_cases dot : 0x2E ∈ name
    · obtain ⟨after, before, parts, plain⟩ :=
        List.eq_append_cons_of_mem (List.mem_reverse.2 dot)
      obtain rfl : name = before.reverse ++ 0x2E :: after.reverse := by
        rw [← List.reverse_reverse name, parts]
        simp
      rw [extension?_append (by simpa using plain)] at found
      split at found
      · cases found
      · rename_i nonempty
        obtain rfl := Option.some.inj found
        exact ⟨before.reverse, nonempty, rfl, by simpa using plain⟩
    · rw [extension?_of_not_mem dot] at found
      cases found
  · rintro ⟨before, nonempty, rfl, plain⟩
    rw [extension?_append plain, if_neg nonempty]

/-- A name that ends in a dot and one of the letters `c`, `h`, `C` and `H`, with something before
them. -/
def IsCFileName (name : FileName) : Prop :=
  ∃ before, before ≠ [] ∧ ∃ letter ∈ [0x63, 0x68, 0x43, 0x48], name = before ++ [0x2E, letter]

theorem isCName_iff : isCName name = true ↔ IsCFileName name := by
  have letters {extension : FileName} :
      (extensions.any (fun word => FileName.ofText word == extension.map lower)) = true ↔
        ∃ letter ∈ [0x63, 0x68, 0x43, 0x48], extension = [letter] := by
    have c : FileName.ofText "c" = [0x63] := by decide
    have h : FileName.ofText "h" = [0x68] := by decide
    have one (letter : UInt8) : [letter] = extension.map lower ↔
        ∃ octet, extension = [octet] ∧ lower octet = letter := by
      rw [eq_comm, List.map_eq_singleton_iff]
    have small (octet : UInt8) : lower octet = 0x63 ↔ octet = 0x63 ∨ octet = 0x43 :=
      lower_eq_iff (by decide)
    have small' (octet : UInt8) : lower octet = 0x68 ↔ octet = 0x68 ∨ octet = 0x48 :=
      lower_eq_iff (by decide)
    simp only [extensions, List.any_cons, List.any_nil, Bool.or_false, Bool.or_eq_true,
      beq_iff_eq, c, h, one, small, small']
    grind
  rw [isCName, Option.any_eq_true]
  constructor
  · rintro ⟨extension, found, known⟩
    obtain ⟨before, nonempty, rfl, -⟩ := extension?_eq_some_iff.1 found
    obtain ⟨letter, listed, rfl⟩ := letters.1 known
    exact ⟨before, nonempty, letter, listed, rfl⟩
  · rintro ⟨before, nonempty, letter, known, rfl⟩
    have plain : 0x2E ∉ [letter] := by
      rintro dot
      rw [← List.mem_singleton.1 dot] at known
      revert known
      decide
    exact ⟨[letter], extension?_eq_some_iff.2 ⟨before, nonempty, rfl, plain⟩,
      letters.2 ⟨letter, known, rfl⟩⟩

end Extension

section Order

variable {visits arrived : List Visit}

theorem precedes_total (first second : List FileName) :
    decide (first ≤ second) = true ∨ decide (second ≤ first) = true := by
  simpa using List.le_total first second

theorem precedes_trans (first second third : List FileName)
    (before : decide (first ≤ second) = true) (after : decide (second ≤ third) = true) :
    decide (first ≤ third) = true := by
  simp only [decide_eq_true_eq] at *
  exact List.le_trans before after

/-- What is come upon once is put in strict order. -/
theorem pairwise_sorted (distinct : (visits.map Visit.names).Nodup) :
    (sorted visits).Pairwise (· < ·) := by
  have once : (sorted visits).Nodup :=
    (Sorted.sort_perm ..).nodup_iff.2 (distinct.sublist (List.filter_sublist.map _))
  refine ((Sorted.sort_pairwise precedes_total precedes_trans _).and once).imp ?_
  rintro first second ⟨before, apart⟩
  exact Std.lt_of_le_of_ne (of_decide_eq_true before) apart

/-- The order in which entries are come upon does not matter. -/
theorem sorted_of_perm (distinct : (visits.map Visit.names).Nodup)
    (same : arrived.Perm visits) : sorted arrived = sorted visits := by
  refine Sorted.sort_of_perm precedes_total precedes_trans
    (((same.filter _).map _).trans (Sorted.sort_perm ..).symm) ?_
  refine (pairwise_sorted distinct).imp fun before => decide_eq_false ?_
  exact Std.not_le.2 before

end Order

def pathFrom (root : String) (names : List FileName) : String :=
  join root (names.map FileName.shown)

/-- Exactly the C files are gathered to which no excluded name leads from the root, each once and in
the order of their names, in whatever order the walk comes upon them.  Neither the name of the root
nor that of the file counts. -/
theorem files_gathers_exactly {disk : Disk} {root : String} {entry : Entry}
    (lies : disk.list root = some entry) (proper : entry.Proper) (extra : List String) :
    ∃ found : List (List FileName),
      files disk root extra = some (found.map (pathFrom root)) ∧
      found.Pairwise (· < ·) ∧
      (∀ names, names ∈ found ↔
        entry.at? names = some .file ∧
        IsCFileName (names.getLastD (.ofText (fileName root))) ∧
        ∀ name ∈ names.dropLast, ¬ IsExcludedName extra name) ∧
      ∀ arrived : List Visit,
        arrived.Perm (visit extra [] (.ofText (fileName root)) entry) → sorted arrived = found := by
  have distinct : ((visit extra [] (.ofText (fileName root)) entry).map Visit.names).Nodup :=
    nodup_visit proper
  refine ⟨_, by rw [files, lies]; rfl, pairwise_sorted distinct, fun names => ?_,
    fun arrived => sorted_of_perm distinct⟩
  have looked : isExcluded extra 0 (.ofText (fileName root)) entry = false := by
    simp [isExcluded]
  rw [sorted, (Sorted.sort_perm ..).mem_iff, List.mem_map, ← isCName_iff]
  constructor
  · rintro ⟨visited, member, rfl⟩
    obtain ⟨member, wanted⟩ := List.mem_filter.1 member
    rw [Visit.isWanted, Bool.and_eq_true] at wanted
    obtain ⟨-, below, rfl, found, free⟩ := (file_mem_visit proper (isFile_iff.1 wanted.1)).1 member
    exact ⟨found, wanted.2, free⟩
  · rintro ⟨found, named, free⟩
    refine ⟨⟨names, names.getLastD (.ofText (fileName root)), .file⟩, ?_, rfl⟩
    rw [List.mem_filter, file_mem_visit proper rfl]
    exact ⟨⟨looked, names, rfl, found, free⟩, named⟩

/-- A root and a file with excluded names, two directories with such names, and a name that is no
more than an extension. -/
theorem files_gathers_exactly_excluded_root :
    let disk := (FileTree.ofPaths [("build/net/x.C", []), ("build/main.c", []), ("build/a.h", []),
      ("build/target/y.c", []), ("build/.c", [])]).disk
    ∃ entry, disk.list "build" = some entry ∧ entry.Proper ∧
      files disk "build" ["net", "main.c"] = some ["build/a.h", "build/main.c"] ∧
      ∃ found : List (List FileName),
        found.map (pathFrom "build") = ["build/a.h", "build/main.c"] ∧
        ∀ names, names ∈ found ↔
          entry.at? names = some .file ∧
          IsCFileName (names.getLastD (.ofText (fileName "build"))) ∧
          ∀ name ∈ names.dropLast, ¬ IsExcludedName ["net", "main.c"] name := by
  intro disk
  have gathered : files disk "build" ["net", "main.c"] = some ["build/a.h", "build/main.c"] := by
    decide +kernel
  obtain ⟨entry, lies⟩ : ∃ entry, disk.list "build" = some entry :=
    Option.isSome_iff_exists.1 (by decide +kernel)
  have proper := FileTree.proper_list lies
  obtain ⟨found, paths, -, exactly, -⟩ := files_gathers_exactly lies proper ["net", "main.c"]
  exact ⟨entry, lies, proper, gathered, found, Option.some.inj (paths.symm.trans gathered), exactly⟩

end Gather

end CSurvey
