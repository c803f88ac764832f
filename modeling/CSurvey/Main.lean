import CSurvey.CommandLine.Run
import CSurvey.Pattern.Parse

/-!
# Command line

Looks up what the invocation names on the disk, carries it out, and prints, writes
and exits as the outcome says.
-/

namespace CSurvey.CommandLine

/-- The libraries that the command line is built with; it reads no parameters. -/
def libraries : Libraries :=
  ⟨Pattern.compiler, fun operation _ => s!"no parameters of {operation.name}"⟩

/-- The octets of a file, or why they cannot be read. -/
def readOctets (path : String) : IO (Except String (List UInt8)) := do
  try
    return .ok (← IO.FS.readBinFile path).toList
  catch problem =>
    return .error (toString problem)

partial def entryAt (found : IO.FS.DirEntry) : IO (FileName × Entry) := do
  let entry ← match (← found.path.symlinkMetadata).type with
    | .file => pure .file
    | .dir => pure (.directory (← (← found.path.readDir).toList.mapM entryAt))
    | _ => pure .other
  return (.ofText found.fileName, entry)

/-- What lies at a path. -/
def entryAtPath (path : String) : IO (Option Entry) := do
  let place := (← IO.currentDir).join path
  if ← place.isDir then return some (.directory (← (← place.readDir).toList.mapM entryAt))
  else if ← place.pathExists then return some .file
  else return none

/-- Whether a file can be written at a path. -/
def isWritable (path : String) : IO Bool := do
  let place := (← IO.currentDir).join path
  match place.parent with
  | some directory => return (← directory.isDir) && !(← place.isDir)
  | none => return false

def diskFor (invocation : Invocation) : IO Disk := do
  let settings := invocation.settingsPath.getD (Gather.join "." [Settings.fileName])
  let found ← match invocation.command with
    | .scan root _ => entryAtPath root
    | _ => pure none
  let walked : Disk := { Disk.empty with list := fun _ => found }
  let gathered := match invocation.command with
    | .scan root exclude => (Gather.files walked root exclude).getD []
    | _ => []
  let paths := settings :: invocation.command.file?.toList ++ gathered
  let files ← paths.mapM (fun path => do return (path, ← readOctets path))
  let outputs ← invocation.command.output?.toList.filterM isWritable
  let read (path : String) : Except String (List UInt8) :=
    match files.find? (fun file => file.1 == path) with
    | some file => file.2
    | none => .error "not looked up"
  return {
    read
    list := fun path =>
      if path == settings then (read path).toOption.map (fun _ => .file) else found
    writable := outputs.contains }

def finish (outcome : Outcome) : IO UInt32 := do
  if let some (path, text) := outcome.written then IO.FS.writeFile path text
  IO.print outcome.stdout
  for note in outcome.notes do IO.eprintln note
  if let some reason := outcome.failure then IO.eprintln s!"Error: {reason}"
  return outcome.exit.toUInt32

end CSurvey.CommandLine

open CSurvey.CommandLine in
def main (arguments : List String) : IO UInt32 := do
  match parse arguments with
  | .ok invocation => finish (run libraries (← diskFor invocation) invocation)
  | .error stop =>
    if stop == .invalid then IO.eprintln "error: invalid arguments"
    finish (.stopped stop)
