import CSurvey.Text.Search

/-!
# Hints from names

What the name of a function says about it: what it is probably for, which group
of a diagram it belongs to, whether a decompiler made it up, and the identifier
by which a diagram refers to it.
-/

namespace CSurvey.NameHints

/-- Fragments of lower-case names and the purpose that any of them suggests. -/
def purposeTable : List (List String × String) :=
  [(["main", "entry", "_start"], "program entry point"),
   (["init", "setup", "create", "open"], "initialization"),
   (["free", "destroy", "cleanup", "close", "release"], "resource release"),
   (["get", "read", "fetch", "load"], "data access (read)"),
   (["set", "write", "store", "save"], "data access (write)"),
   (["send", "recv", "transmit", "receive"], "network or bus I/O"),
   (["parse", "decode", "unpack"], "input parsing"),
   (["encode", "pack", "serialize"], "output encoding"),
   (["crc", "checksum", "hash"], "integrity check"),
   (["crypt", "cipher", "aes", "md5", "sha"], "cryptography"),
   (["modbus"], "Modbus protocol"),
   (["tcp", "socket", "connect"], "TCP networking"),
   (["rtu", "serial", "uart"], "serial line"),
   (["thunk"], "import thunk")]

/-- Whether a decompiler made the name up from an address. -/
def isPlaceholder (name : String) : Bool :=
  ["FUN_", "sub_", "thunk_FUN_", "LAB_"].any (Text.startsWith name)

/-- Whether the lower-case name contains one of the fragments. -/
def mentions (name : String) (fragments : List String) : Bool :=
  fragments.any (Text.contains (Text.lower name))

/-- The purposes that a name suggests, in the order of the table. -/
def purposes (name : String) : List String :=
  (purposeTable.filter (fun entry => mentions name entry.1)).map (·.2) ++
    (if isPlaceholder name then ["unnamed decompiler function"] else [])

/-- Groups and the fragments that put a name into them; the first that matches counts. -/
def groupTable : List (List String × String) :=
  [(["modbus"], "modbus"),
   (["tcp", "socket"], "network"),
   (["rtu", "serial"], "serial"),
   (["init", "free"], "lifecycle"),
   (["get", "set"], "data_access")]

/-- The group of a diagram that a name belongs to. -/
def group (name : String) : String :=
  match groupTable.find? (fun entry => mentions name entry.1) with
  | some entry => entry.2
  | none => "core"

/-- Whether a character may stand in a diagram's identifiers. -/
def isIdChar (c : Char) : Bool :=
  c.isAlphanum || c == '_'

/-- The identifier of a name: every other character replaced by `_`, with an `n` in front of a
digit or of nothing. -/
def diagramId (name : String) : String :=
  let chars := name.toList.map (fun c => if isIdChar c then c else '_')
  match chars with
  | [] => "n"
  | c :: _ => String.ofList (if c.isDigit then 'n' :: chars else chars)

end CSurvey.NameHints
