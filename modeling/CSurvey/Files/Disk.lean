import CSurvey.Fault
import CSurvey.Sorted
import CSurvey.Source

/-!
# Disks

What can be seen of a file system: the octets at a path, and what lies at and below
it.  A name there is a row of octets, which need not spell a text.  The C files at and
below a path are gathered in the order of the names on their paths.  Directories of
version control and of build output are not looked into, at any depth below the path
itself.
-/

namespace CSurvey

/-- The name of an entry in its directory. -/
abbrev FileName : Type :=
  List UInt8

def FileName.ofText (text : String) : FileName :=
  Text.Utf8.encode text.toList

/-- A name as it is shown, ill-formed parts replaced. -/
def FileName.shown (name : FileName) : String :=
  String.ofList (Text.Utf8.decodeLossy name)

inductive Entry where
  | file
  /-- A link or a device, which is neither read nor followed. -/
  | other
  | directory (entries : List (FileName × Entry))
deriving Repr

namespace Entry

def isFile : Entry → Bool
  | file => true
  | _ => false

def isDirectory : Entry → Bool
  | directory _ => true
  | _ => false

/-- The entries of a directory; anything else has none. -/
def entries : Entry → List (FileName × Entry)
  | directory entries => entries
  | _ => []

/-- What some names lead to. -/
def at? : List FileName → Entry → Option Entry
  | [], entry => some entry
  | name :: names, entry => (entry.entries.lookup name).bind (at? names)

/-- The entries with the one of a name changed, which is an empty directory if it is new. -/
def change (name : FileName) (f : Entry → Entry) :
    List (FileName × Entry) → List (FileName × Entry)
  | [] => [(name, f (directory []))]
  | (held, entry) :: rest =>
    if held = name then (name, f entry) :: rest else (held, entry) :: change name f rest

/-- The entry with a file where some names lead, and with directories on the way there. -/
def insert : List FileName → Entry → Entry
  | [], _ => file
  | name :: names, entry => directory (change name (insert names) entry.entries)

/-- The directory with files where the given names lead. -/
def ofFiles (files : List (List FileName)) : Entry :=
  files.foldl (fun entry names => entry.insert names) (directory [])

end Entry

structure Disk where
  /-- The octets of the file at a path, or why they cannot be read. -/
  read : String → Except String (List UInt8)
  /-- What lies at a path, if anything does. -/
  list : String → Option Entry
  /-- Whether a file can be written at a path. -/
  writable : String → Bool

namespace Disk

def empty : Disk where
  read _ := .error "no such file"
  list _ := none
  writable _ := false

/-- The source at a path, ill-formed parts of its text replaced. -/
def load (disk : Disk) (path : String) : Except Fault Source :=
  match disk.read path with
  | .ok octets => .ok (Source.ofOctets path octets)
  | .error reason => .error (.io path reason)

/-- The text at a path, which has to be well formed. -/
def readText (disk : Disk) (path : String) : Except Fault String :=
  match disk.read path with
  | .error reason => .error (.io path reason)
  | .ok octets =>
    match Text.Utf8.decode? octets with
    | some cs => .ok (String.ofList cs)
    | none => .error (.io path "the text is not valid UTF-8")

end Disk

namespace Gather

/-- The names of directories that are always left out. -/
def excluded : List String :=
  [".git", ".svn", "target", "build", "node_modules"]

/-- What follows the last dot of a name, unless nothing stands before that dot. -/
def extension? (name : FileName) : Option FileName :=
  let backward := name.reverse
  let tail := backward.takeWhile (fun octet => octet != 0x2E)
  if tail.length + 1 < backward.length then some tail.reverse else none

/-- The small letter for a capital one. -/
def lower (octet : UInt8) : UInt8 :=
  if 0x41 ≤ octet && octet ≤ 0x5A then octet + 0x20 else octet

/-- The extensions of C files. -/
def extensions : List String :=
  ["c", "h"]

/-- Whether a file of that name holds C: the extension is `c` or `h` in either case. -/
def isCName (name : FileName) : Bool :=
  (extension? name).any (fun extension =>
    extensions.any (fun word => FileName.ofText word == extension.map lower))

def fileName (path : String) : String :=
  String.ofList (path.toList.reverse.takeWhile (fun c => c != '/')).reverse

/-- Whether an entry is left out with all below it, by its depth and name.  What is given as the
root is looked into whatever its name. -/
def isExcluded (extra : List String) (depth : Nat) (name : FileName) (entry : Entry) : Bool :=
  entry.isDirectory && 0 < depth &&
    (excluded ++ extra).any (fun word => FileName.ofText word == name)

/-- An entry that is come upon, by the names that lead to it from the root. -/
structure Visit where
  names : List FileName
  name : FileName
  entry : Entry
deriving Repr

mutual

/-- The entries come upon from one on, unless it is left out. -/
def visit (extra : List String) (names : List FileName) (name : FileName) (entry : Entry) :
    List Visit :=
  if isExcluded extra names.length name entry then []
  else
    ⟨names, name, entry⟩ ::
      match entry with
      | .directory entries => visitAll extra names entries
      | _ => []
termination_by structural entry

/-- The entries come upon in a directory. -/
def visitAll (extra : List String) (names : List FileName) :
    List (FileName × Entry) → List Visit
  | [] => []
  | (name, entry) :: rest =>
    visit extra (names ++ [name]) name entry ++ visitAll extra names rest
termination_by structural entries => entries

end

def Visit.isWanted (visit : Visit) : Bool :=
  visit.entry.isFile && isCName visit.name

/-- The names that lead to the C files among some entries, in order.  Of two, those come first that
have the smaller name where they begin to differ, or that end there. -/
def sorted (visits : List Visit) : List (List FileName) :=
  Sorted.sort (fun first second => first ≤ second) ((visits.filter Visit.isWanted).map Visit.names)

/-- The path of an entry in a directory. -/
def enter (path : String) (name : String) : String :=
  if path.isEmpty || path.toList.getLast? == some '/' then path ++ name else path ++ "/" ++ name

/-- The path where some names lead from a root. -/
def join (root : String) (names : List String) : String :=
  names.foldl enter root

/-- The paths of the C files at and below a root, leaving out `extra` directories too; `none` when
there is nothing at the root. -/
def files (disk : Disk) (root : String) (extra : List String) : Option (List String) :=
  (disk.list root).map (fun entry =>
    let found := sorted (visit extra [] (.ofText (fileName root)) entry)
    found.map (fun names => join root (names.map FileName.shown)))

end Gather

end CSurvey
