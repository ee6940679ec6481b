import Playbook.CommandLine.Program
import Playbook.Model.Body
import Playbook.Settings.Library
import Playbook.Shell.Run
/-!
# The command

Takes a picture of the working directory, carries out the command line on it, and brings what changed back to
the directory.
-/

namespace Playbook.Main

open CommandLine (Finish)

/-! ### The picture -/

def locationOf (path : String) : Location := (Path.ofString path).names

/-- The directory with everything below it. -/
partial def gather (dir : String) : IO (List (Location × Entry)) := do
  let mut entries := [(locationOf dir, Entry.directory)]
  for e in ← (← IO.FS.realPath dir).readDir do
    let path := dir ++ "/" ++ e.fileName
    if ← e.path.isDir then entries := entries ++ (← gather path)
    else entries := entries ++ [(locationOf path, .file (← IO.FS.readBinFile e.path).toList)]
  return entries

/-- The directories on the way to a location. -/
def above (loc : Location) : List (Location × Entry) := (List.range loc.length).map fun n => (loc.take n, .directory)

def accountOf (line : String) : Option (Text.Bytes × WideString) :=
  match line.splitOn ":" with
  | [name, _, _, _, _, home, _] => some (Text.encodeUtf8 name.toList, home)
  | _ => none

def accounts : IO (List (Text.Bytes × WideString)) := do
  try return ((← IO.FS.lines "/etc/passwd").toList).filterMap accountOf
  catch _ => return []

def environment : IO Settings.Environment := do
  let mut env : Settings.Environment := []
  for name in Settings.fieldNames do
    if let some value ← IO.getEnv (Settings.variableOf name) then
      env := env ++ [(Settings.variableOf name, (value : WideString))]
  return env

def scratch : String := "/tmp/playbook"

/-- The host has the shells to run scripts with. -/
def host (dir : String) (input : String) : IO Host := do
  let entries := above (locationOf scratch) ++ above (locationOf dir) ++ (← gather dir)
  let home : Path := .ofString ((← IO.getEnv "HOME").getD "/")
  return {
    disk := ⟨entries.filter (·.1 ≠ [])⟩
    cwd := locationOf dir
    home := home
    accounts := ← accounts
    scratch := .ofString scratch
    python := "python3"
    answers := some (CommandLine.answersOf input)
    prompts := []
    launch := Shell.launch home }

/-- The most levels of lists and objects that are read. -/
def depth : Nat := 1000

/-- No network is there, so that nothing is known of statuses. -/
def libraries : CommandLine.Libraries where
  settings := Settings.library
  network := ⟨⟨fun _ => none, Body.read depth, fun status _ => toString status⟩, Retry.loop, Retry.loop⟩

/-! ### Bringing it back -/

def pathOf (loc : Location) : String :=
  "/" ++ "/".intercalate (loc.map fun name => String.ofList (Text.decodeUtf8Lenient name))

/-- Makes the real files those of the new disk. -/
def bringBack (before after : Disk) : IO Unit := do
  for (loc, e) in after.entries do
    if before.find? loc ≠ some e then
      match e with
      | .directory => IO.FS.createDirAll (pathOf loc)
      | .file bytes => IO.FS.writeBinFile (pathOf loc) ⟨bytes.toArray⟩
  for (loc, e) in before.entries.reverse do
    if (after.find? loc).isNone then
      match e with
      | .directory => IO.FS.removeDir (pathOf loc)
      | .file _ => IO.FS.removeFile (pathOf loc)

def code (f : Finish) : IO UInt32 :=
  match f.code with
  | .ok n => return n.toUInt32
  | .error failure => do
    (← IO.getStderr).putStr (failure.message.plain ++ "\n")
    return 1

def run (args : List String) : IO UInt32 := do
  let input ← if args.contains "run" then (← IO.getStdin).readToEnd else pure ""
  let h ← host (← IO.currentDir).toString input
  let f := CommandLine.start libraries h (← environment) args
  bringBack h.disk f.host.disk
  (← IO.getStdout).putStr f.output.plain
  (← IO.getStderr).putStr f.errors.plain
  code f

end Playbook.Main

def main (args : List String) : IO UInt32 := Playbook.Main.run args
