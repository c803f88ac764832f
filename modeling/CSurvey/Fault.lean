/-!
# Faults

Why an operation was refused.  Malformed C text is never a fault; what remains is
arguments out of range, names that are not known, settings, files, and counts whose
sum is too large for a word.
-/

namespace CSurvey

/-- Why an argument was rejected. -/
inductive ArgumentFault where
  | zeroChunkSize
  | zeroMaxNodes
  | zeroSetting (name : String)
  | unknownRule (id : String)
  | unknownSeverity (name : String)
  | unknownChartKind (name : String)
  | unknownSearchKind (name : String)
  | unknownOperation (name : String)
  | invalidPattern (pattern reason : String)
  | invalidParameters (operation reason : String)
  | noSource
  | other (text : String)
deriving DecidableEq, Repr

namespace ArgumentFault

def message : ArgumentFault → String
  | zeroChunkSize => "max_chunk_size must be at least 1"
  | zeroMaxNodes => "max_nodes must be at least 1"
  | zeroSetting name => s!"analysis.{name} must be at least 1"
  | unknownRule id => s!"unknown risk rule `{id}`"
  | unknownSeverity name => s!"unknown severity `{name}` (expected low, medium, high or critical)"
  | unknownChartKind name => s!"unknown chart kind `{name}` (expected flow, hierarchy or mind_map)"
  | unknownSearchKind name =>
    s!"unknown search type `{name}` (expected function, variable, string, comment or any)"
  | unknownOperation name => s!"unknown operation `{name}`"
  | invalidPattern pattern reason => s!"invalid search pattern `{pattern}`: {reason}"
  | invalidParameters operation reason => s!"invalid parameters for {operation}: {reason}"
  | noSource => "either `path` or `text` must be provided"
  | other text => text

end ArgumentFault

/-- What is wrong with a settings file. -/
inductive SettingsFault where
  | argument (fault : ArgumentFault)
  | malformed (reason : String)
deriving DecidableEq, Repr

/-- Why an operation failed. -/
inductive Fault where
  | io (path reason : String)
  | argument (fault : ArgumentFault)
  | settings (path : String) (fault : SettingsFault)
  | serialization (reason : String)
  | internal (reason : String)
  /-- An addition of counts failed.  It ends the call at once, so that nothing is recorded. -/
  | overflow
deriving DecidableEq, Repr

namespace SettingsFault

def message : SettingsFault → String
  | argument fault => s!"Invalid argument: {fault.message}"
  | malformed reason => reason

end SettingsFault

namespace Fault

/-- The text shown for a fault. -/
def message : Fault → String
  | io path reason => s!"I/O error at {path}: {reason}"
  | argument fault => s!"Invalid argument: {fault.message}"
  | settings path fault => s!"Config error at {path}: {fault.message}"
  | serialization reason => s!"Serialization error: {reason}"
  | internal reason => s!"Internal error: {reason}"
  | overflow => "attempt to add with overflow"

/-- A short word for the kind of fault. -/
def code : Fault → String
  | io .. => "io"
  | argument _ => "invalid_argument"
  | settings .. => "config"
  | serialization _ => "serialization"
  | internal _ => "internal"
  | overflow => "panic"

/-- Whether another input may succeed. -/
def isRecoverable : Fault → Bool
  | argument _ | settings .. | serialization _ => true
  | io .. | internal _ | overflow => false

def path? : Fault → Option String
  | io path _ => some path
  | settings path _ => some path
  | _ => none

end Fault

end CSurvey
