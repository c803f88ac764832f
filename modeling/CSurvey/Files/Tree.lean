import CSurvey.Files.Disk
import CSurvey.Text.Blank

/-!
# File trees

A directory given by the files below it.  A path is followed name by name, as a
file system does: a dot stays where it is, two dots go one level up, and only a
directory can be left.
-/

namespace CSurvey

/-- The files below a directory, each with the names that lead to it. -/
structure FileTree where
  files : List (List String × List UInt8)
deriving DecidableEq, Repr

namespace FileTree

/-- A place in a tree. -/
inductive Place where
  | file (octets : List UInt8)
  | directory (names : List String)
deriving DecidableEq, Repr

/-- The names in a path, as they stand between its slashes. -/
def namesOf (path : String) : List String :=
  (Text.splitWhere (fun c => c == '/') path.toList).map String.ofList

def ofPaths (files : List (String × List UInt8)) : FileTree :=
  ⟨files.map (fun file => (namesOf file.1, file.2))⟩

/-- The files below a directory, with the names that lead on from it. -/
def below (tree : FileTree) (names : List String) : List (List String) :=
  tree.files.filterMap (fun file =>
    if names.isPrefixOf file.1 && names.length < file.1.length then
      some (file.1.drop names.length)
    else none)

/-- What lies at some names. -/
def at? (tree : FileTree) (names : List String) : Option Place :=
  match tree.files.find? (fun file => file.1 == names) with
  | some file => some (.file file.2)
  | none => if (tree.below names).isEmpty then none else some (.directory names)

def follow (tree : FileTree) : Place → String → Option Place
  | .file _, _ => none
  | .directory names, name =>
    if name.isEmpty || name == "." then some (.directory names)
    else if name == ".." then if names.isEmpty then none else some (.directory names.dropLast)
    else tree.at? (names ++ [name])

/-- What lies at a relative path. -/
def find? (tree : FileTree) (path : String) : Option Place :=
  if path.isEmpty || path.toList.head? == some '/' then none
  else (namesOf path).foldlM tree.follow (.directory [])

/-- The names at which a file can be written, for a path. -/
def target? (tree : FileTree) (path : String) : Option (List String) :=
  let names := namesOf path
  let directory := if names.length ≤ 1 then some (Place.directory [])
    else names.dropLast.foldlM tree.follow (.directory [])
  match directory, names.getLast? with
  | some (.directory above), some name =>
    if path.toList.head? == some '/' || ["", ".", ".."].contains name then none
    else
      match tree.at? (above ++ [name]) with
      | some (.directory _) => none
      | _ => some (above ++ [name])
  | _, _ => none

/-- The tree after a file has been written at a path, if one can be. -/
def write? (tree : FileTree) (path : String) (octets : List UInt8) : Option FileTree :=
  (tree.target? path).map (fun names =>
    ⟨tree.files.filter (fun file => file.1 != names) ++ [(names, octets)]⟩)

def disk (tree : FileTree) : Disk where
  read path :=
    match tree.find? path with
    | some (.file octets) => .ok octets
    | some (.directory _) => .error "Is a directory"
    | none => .error "No such file or directory"
  list path :=
    match tree.find? path with
    | some (.file _) => some .file
    | some (.directory names) =>
      some (.ofFiles ((tree.below names).map (fun below => below.map FileName.ofText)))
    | none => none
  writable path := (tree.target? path).isSome

end FileTree

end CSurvey
