import CSurvey.Files.Disk
import CSurvey.Toml.Reader
import CSurvey.Wire.Settings

/-!
# Settings files

Settings written in TOML.  A file that cannot be read, that is not TOML, or whose
settings are not valid is a fault at its path.
-/

namespace CSurvey.Settings

/-- The name of the settings file that is looked for in a directory. -/
def fileName : String :=
  "revscope.toml"

def mapField (name : String) (change : Json → Json) : Json → Json
  | .obj fields =>
    .obj (fields.map (fun field => if field.1 == name then (field.1, change field.2) else field))
  | value => value

/-- A case may be written as a table whose only entry is empty. -/
def caseForm : Json → Json
  | .obj [(name, .obj [])] => .str name
  | .obj [(name, .arr [])] => .str name
  | value => value

def caseMapping : Json → Json
  | .obj fields => .obj (fields.map (fun field => (field.1, caseForm field.2)))
  | value => value

/-- A record given by its first values in order; what goes beyond its fields is ignored. -/
def firstItems (count : Nat) : Json → Json
  | .arr items => .arr (items.take count)
  | value => value

/-- The part about risks. -/
def riskForm (value : Json) : Json :=
  match mapField "severity" caseMapping (firstItems 2 value) with
  | .arr [disabled, severity] => .arr [disabled, caseMapping severity]
  | value => value

def documentForm (value : Json) : Json :=
  mapField "analysis" (firstItems 5)
    (mapField "thresholds" (firstItems 6) (mapField "risk" riskForm value))

/-- The settings that a text describes. -/
def ofToml? (text : String) : Option Settings := do
  Settings.ofJson? (documentForm (← Toml.parse? text).toJson)

/-- What a file has to say about settings that are not valid. -/
def faultAt (path : String) : Fault → Fault
  | .argument fault => .settings path (.argument fault)
  | fault => .settings path (.malformed fault.message)

def load (disk : Disk) (path : String) : Except Fault Settings := do
  match ofToml? (← disk.readText path) with
  | none => throw (.settings path (.malformed "not a settings document"))
  | some settings =>
    (settings.validate).mapError (faultAt path)
    return settings

def find (disk : Disk) (directory : String) : Except Fault (Option Settings) :=
  let path := Gather.join directory [fileName]
  match disk.list path with
  | none => .ok none
  | some _ => (load disk path).map some

end CSurvey.Settings
