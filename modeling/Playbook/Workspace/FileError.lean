import Playbook.Workspace.Path
/-!
# File errors

Why an operation on a file fails, with the path it was asked for.
-/

namespace Playbook

inductive FileFault where
  | noEntry
  | alreadyExists
  | notDirectory
  | isDirectory
  | nameTooLong
deriving Repr, DecidableEq

namespace FileFault

def code : FileFault → Nat
  | noEntry => 2
  | alreadyExists => 17
  | notDirectory => 20
  | isDirectory => 21
  | nameTooLong => 36

def text : FileFault → String
  | noEntry => "No such file or directory"
  | alreadyExists => "File exists"
  | notDirectory => "Not a directory"
  | isDirectory => "Is a directory"
  | nameTooLong => "File name too long"

end FileFault

structure FileError where
  fault : FileFault
  path : Path
deriving Repr, DecidableEq

def FileError.message (e : FileError) : String :=
  s!"[Errno {e.fault.code}] {e.fault.text}: {Text.quoted e.path.text}"

end Playbook
