import Playbook.Workspace.Launch
/-!
# Hosts

What the surroundings of a playbook provide: a disk, a working directory, home directories, a place for
scripts, programs that run them, and possibly somebody who answers questions.
-/

namespace Playbook

/-- The answers that are still to come; a missing one means that the user cancels. -/
structure Answers where
  left : List (Option WideString)
  whenUsedUp : Failure

structure Host where
  disk : Disk
  cwd : Location
  home : Path
  /-- The home directories of users. -/
  accounts : List (Text.Bytes × WideString)
  /-- Where a script stands while it runs, without its ending. -/
  scratch : Path
  /-- The command that runs Python. -/
  python : String
  answers : Option Answers
  /-- The questions asked so far. -/
  prompts : List WideString
  launch : Launcher

namespace Host

/-- A host with a disk and nothing else. -/
def bare (disk : Disk) : Host where
  disk := disk
  cwd := []
  home := ⟨"/", []⟩
  accounts := []
  scratch := ⟨"/", []⟩
  python := ""
  answers := none
  prompts := []
  launch := fun _ _ d => (d, .notFound)

def cwdPath (h : Host) : Path := ⟨"/", h.cwd.map Text.decodeName⟩

/-- A tilde in front stands for a home directory, of a user if a name follows it. -/
def expandHome (h : Host) (p : Path) : Except Failure Path :=
  if p.isAbsolute then .ok p
  else match p.parts with
    | [] => .ok p
    | first :: rest =>
      match first with
      | [.char '~'] => .ok ⟨h.home.root, h.home.parts ++ rest⟩
      | .char '~' :: user =>
        match Path.faultOf? user with
        | some fault => .error (.path fault)
        | none =>
          match h.accounts.lookup (Text.nameBytes user) with
          | some home => .ok ((Path.ofString home).below ⟨"", rest⟩)
          | none => .error .unknownHome
      | _ => .ok p

/-- Asks a question. -/
def ask (h : Host) (prompt : WideString) : Host × Except Failure WideString :=
  match h.answers with
  | none => (h, .error (.skill .noInputProvider))
  | some answers =>
    let asked := { h with prompts := h.prompts ++ [prompt] }
    match answers.left with
    | [] => (asked, .error answers.whenUsedUp)
    | answer :: left =>
      ({ asked with answers := some { answers with left := left } },
        match answer with
        | some text => .ok text
        | none => .error (.skill .inputCancelled))

end Host

end Playbook
