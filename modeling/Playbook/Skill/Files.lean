import Playbook.Skill.Basic
import Playbook.Text.Display
import Playbook.Workspace.TextFile
/-!
# The file skill

Reads, writes and deletes files. A relative path is below the workspace. Reading takes every kind of line end
for a line feed; writing changes nothing.
-/

namespace Playbook.Files

open Text (Bytes)

inductive FileAction where
  | read
  | write
  | delete
deriving Repr, DecidableEq

namespace FileAction

def name : FileAction → String
  | read => "read"
  | write => "write"
  | delete => "delete"

def all : List FileAction := [read, write, delete]

end FileAction

structure FileRequest where
  action : FileAction
  path : Json
  content : Json

def isPresent (value : Option Json) : Bool := (value.map Json.isTruthy).getD false

/-- The request that the arguments make, checked in the order action, path, content. -/
def request (args : Arguments) : Except Failure FileRequest :=
  let action := args.lookup "action"
  let path := args.lookup "path"
  let content := (args.lookup "content").getD .null
  if !isPresent action then .error (.parameter (.missing "action"))
  else
    let known : Option FileAction := FileAction.all.find? fun a => (action.bind Json.text?) = some (a.name : WideString)
    match known with
    | none => .error (.parameter (.unknownAction (action.getD .null).display))
    | some known =>
      if !isPresent path then .error (.parameter (.missing "path"))
      else if known = .write ∧ content matches .null then .error (.parameter .noContent)
      else .ok ⟨known, path.getD .null, content⟩

/-- The path meant, home directories filled in. -/
def resolve (api : Api) (path : Json) : Except Failure Path :=
  match path with
  | .str s => do return api.root.below (← api.host.expandHome (.ofString s))
  | value => .error (.host .type s!"expected str, bytes or os.PathLike object, not {value.kind}")

def requireName (path : Path) : Except Failure Unit :=
  match path.fault? with
  | some fault => .error (.path fault)
  | none => .ok ()

def read (h : Host) (path : Path) : Except Failure String := do
  requireName path
  let bytes ← (h.disk.readBytes h.cwd path).mapError fun e => .skill (.cannotRead e)
  return String.ofList (← TextFile.decode bytes)

/-- What is to be written. Whatever is no text but counts as nothing is taken for an empty text. -/
def contentOf : Json → Except Failure WideString
  | .str s => .ok s
  | value => if value.isTruthy then .error (.host .type s!"data must be str, not {value.kind}") else .ok []

/-- Writes the file itself; the first component is the disk with whatever was written. The file is emptied before the
text is encoded. -/
def writeText (h : Host) (disk : Disk) (path : Path) (text : WideString) : Disk × Except Failure Unit :=
  match requireName path with
  | .error f => (disk, .error f)
  | .ok () =>
    let bytes := Text.encode text
    match disk.writeBytes h.cwd path (bytes.toOption.getD []) with
    | .error e => (disk, .error (.skill (.cannotWrite path e)))
    | .ok written => (written, (bytes.mapError .unencodable).map fun _ => ())

/-- The disk with whatever was made, first the directories above the file and then the file itself. -/
def write (h : Host) (path : Path) (content : Json) : Disk × Except Failure Unit :=
  match requireName path.parent with
  | .error f => (h.disk, .error f)
  | .ok () =>
    match h.disk.ensureDirectory h.cwd path.parent (path.parts.length + 1) with
    | (disk, .error e) => (disk, .error (.skill (.cannotWrite path e)))
    | (disk, .ok ()) =>
      match contentOf content with
      | .error f => (disk, .error f)
      | .ok text => writeText h disk path text

def delete (h : Host) (path : Path) : Except Failure Disk := do
  requireName path
  (h.disk.deleteFile h.cwd path).mapError fun e => .skill (.cannotDelete e)

def setDisk (disk : Disk) : Work Unit := modify fun api => { api with host := { api.host with disk := disk } }

def work (args : Arguments) : Work Product := do
  let api ← get
  let r ← ofExcept (request args)
  let path ← ofExcept (resolve api r.path)
  match r.action with
  | .read => return .messages [.agent (← ofExcept (read api.host path))]
  | .write =>
    let (disk, written) := write api.host path r.content
    setDisk disk
    ofExcept written
    return .messages [.agent ("File written successfully: " ++ path.text)]
  | .delete =>
    setDisk (← ofExcept (delete api.host path))
    return .messages [.agent ("File deleted successfully: " ++ path.text)]

def skill : Skill :=
  .ofWork "file" "Read, write and delete files."
    [⟨"action", "Action to perform (read|write|delete)", true⟩,
      ⟨"path", "File path, relative to the workspace or absolute", true⟩,
      ⟨"content", "File content for the write action", false⟩] false work

end Playbook.Files
