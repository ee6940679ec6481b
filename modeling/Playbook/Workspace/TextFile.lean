import Playbook.Failure
import Playbook.Text.Lines
import Playbook.Workspace.Disk
/-!
# Text files

Whether a path leads to something, and the text of a file: UTF-8, with every kind of line end taken for a line
feed.
-/

namespace Playbook.TextFile

/-- A name that no file can have is an error of its own; whatever else is in the way, nothing is there. -/
def isThere (d : Disk) (cwd : Location) (path : Path) : Except Failure Bool :=
  if path.fault?.isSome then .ok false
  else match d.locatePath cwd path with
    | .ok loc => .ok (d.find? loc).isSome
    | .error e => if e.fault = .nameTooLong then .error (.file e) else .ok false

def decode (bytes : Text.Bytes) : Except Failure (List Char) :=
  ((Text.decodeUtf8 bytes).mapError .undecodable).map Text.unifyLineEnds

def read (d : Disk) (cwd : Location) (path : Path) : Except Failure (List Char) := do
  decode (← (d.readBytes cwd path).mapError .file)

end Playbook.TextFile
