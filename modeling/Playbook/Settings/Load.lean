import Playbook.Workspace.TextFile
/-!
# Loading settings

Settings come from a file, if there is one, and from the environment. A variable of the environment goes
before the file unless it is blank, and what neither of them gives has its standard value.
-/

namespace Playbook.Settings

/-- What stands in a settings file. -/
inductive Stored where
  | nothing
  | mapping (entries : List (Setting × Setting))
  | other

/-- Why nothing can be read from a text: it is malformed, or there is an error of another kind. -/
inductive StoredFault where
  | malformed
  | foreign (fault : HostFault) (text : WideString)
deriving Repr, DecidableEq

/-- The libraries that settings files and values are read with. -/
structure Library extends Readers where
  parse : List Char → Except StoredFault Stored

abbrev Environment := List (String × WideString)

/-! ### The environment -/

def variableMark : String := "BRAINY_"

/-- The variable that sets a field. -/
def variableOf (name : String) : String := variableMark ++ name.map Char.toUpper

/-- The value that the environment gives a field, without the blanks around it. -/
def override? (env : Environment) (name : String) : Option Setting :=
  match env.lookup (variableOf name) with
  | some value => if value.isBlank then none else some (.text value.strip)
  | none => none

/-- The given values, with those of the environment put in their places. -/
def overridden (given : List (WideString × Setting)) (env : Environment) : List (WideString × Setting) :=
  fieldNames.foldl (fun all name =>
    match override? env name with
    | some v => insertValue (name : WideString) v all
    | none => all) given

/-! ### The file -/

def standardFile : Path := ⟨"", [".brainy", "config.yaml"]⟩

/-- What a fault of a settings file is reported as. -/
def faultOfFile (path : Path) : StoredFault → Failure
  | .malformed => .config (.unreadable path)
  | .foreign fault text => .host fault text

/-- The entries of a file, or nothing for an empty one. -/
def entriesOf (path : Path) : Stored → Except Failure (List (Setting × Setting))
  | .nothing => .ok []
  | .mapping entries => .ok entries
  | .other => .error (.config (.notMapping path))

/-- Values by name; the last one of a name counts. -/
def named : List (Setting × Setting) → Except Failure (List (WideString × Setting))
  | [] => .ok []
  | (.text name, v) :: rest => do
    let rest ← named rest
    return if rest.any (·.1 = name) then rest else (name, v) :: rest
  | _ :: _ => .error .settingNameNotText

def readEntries (l : Library) (path : Path) (bytes : Text.Bytes) : Except Failure (List (Setting × Setting)) := do
  entriesOf path (← (l.parse (← TextFile.decode bytes)).mapError (faultOfFile path))

/-- The entries of the file; only the standard file may be missing. -/
def fileEntries (l : Library) (d : Disk) (cwd : Location) (path : Option String) :
    Except Failure (List (Setting × Setting)) := do
  let file := (path.map fun (p : String) => Path.ofString p).getD standardFile
  if ← TextFile.isThere d cwd file then
    match d.readBytes cwd file with
    | .ok bytes => readEntries l file bytes
    | .error _ => throw (.config (.unreadable file))
  else if path.isSome then throw (.config (.notFound file))
  else return []

/-! ### Loading -/

/-- Settings from given values and the environment. -/
def merge (l : Library) (given : List (WideString × Setting)) (env : Environment) : Except Failure Settings :=
  (check l.toReaders (overridden given env)).mapError fun faults => .config (.invalid faults)

def load (l : Library) (d : Disk) (cwd : Location) (env : Environment) (path : Option String) :
    Except Failure Settings := do
  let entries ← fileEntries l d cwd path
  merge l (← named entries) env

end Playbook.Settings
