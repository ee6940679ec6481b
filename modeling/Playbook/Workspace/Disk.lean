import Playbook.Workspace.FileError
/-!
# Disks

The files and directories that playbooks work on, by location. A location is the list of names on the way
down from the root, which is always there. Names are bytes. Everybody may read and write everything.
-/

namespace Playbook

open Text (Bytes)

inductive Entry where
  | file (bytes : Bytes)
  | directory
deriving Repr, DecidableEq

abbrev Location := List Bytes

def Location.ofNames (names : List String) : Location := names.map fun name => Text.encodeUtf8 name.toList

/-- The name that leads up. -/
def Location.up : Bytes := [0x2e, 0x2e]

structure Disk where
  entries : List (Location × Entry)
deriving Repr, DecidableEq

namespace Disk

def find? (d : Disk) (loc : Location) : Option Entry :=
  if loc = [] then some .directory else (d.entries.find? (·.1 = loc)).map (·.2)

def put (d : Disk) (loc : Location) (e : Entry) : Disk := ⟨d.entries.filter (·.1 ≠ loc) ++ [(loc, e)]⟩

def remove (d : Disk) (loc : Location) : Disk := ⟨d.entries.filter (·.1 ≠ loc)⟩

def isDirectory (d : Disk) (loc : Location) : Bool := d.find? loc == some .directory

/-- The most bytes that a name may have. -/
def nameLimit : Nat := 255

/-- The fewest bytes that a path may not have. -/
def pathLimit : Nat := 4096

/-- Where a path leads from `loc` on; everything on the way has to be a directory, the end may be missing. -/
def locate (d : Disk) (loc : Location) : List Bytes → Except FileFault Location
  | [] => .ok loc
  | part :: parts =>
    match d.find? loc with
    | none => .error .noEntry
    | some (.file _) => .error .notDirectory
    | some .directory =>
      if part = Location.up then locate d loc.dropLast parts
      else if nameLimit < part.length then .error .nameTooLong
      else locate d (loc ++ [part]) parts

/-! ### Operations

A relative path starts at the location `cwd`. -/

def locatePath (d : Disk) (cwd : Location) (p : Path) : Except FileError Location :=
  if pathLimit ≤ (Text.nameBytes p.text).length then .error ⟨.nameTooLong, p⟩
  else (d.locate (if p.isAbsolute then [] else cwd) p.names).mapError (⟨·, p⟩)

def stat? (d : Disk) (cwd : Location) (p : Path) : Option Entry :=
  match d.locatePath cwd p with
  | .ok loc => d.find? loc
  | .error _ => none

def readBytes (d : Disk) (cwd : Location) (p : Path) : Except FileError Bytes := do
  let loc ← d.locatePath cwd p
  match d.find? loc with
  | none => .error ⟨.noEntry, p⟩
  | some .directory => .error ⟨.isDirectory, p⟩
  | some (.file bytes) => .ok bytes

def writeBytes (d : Disk) (cwd : Location) (p : Path) (bytes : Bytes) : Except FileError Disk := do
  let loc ← d.locatePath cwd p
  if d.isDirectory loc then .error ⟨.isDirectory, p⟩ else .ok (d.put loc (.file bytes))

/-- Makes a file where nothing is. -/
def createFile (d : Disk) (cwd : Location) (p : Path) (bytes : Bytes) : Except FileError Disk := do
  let loc ← d.locatePath cwd p
  if (d.find? loc).isSome then .error ⟨.alreadyExists, p⟩ else .ok (d.put loc (.file bytes))

def deleteFile (d : Disk) (cwd : Location) (p : Path) : Except FileError Disk := do
  let loc ← d.locatePath cwd p
  match d.find? loc with
  | none => .error ⟨.noEntry, p⟩
  | some .directory => .error ⟨.isDirectory, p⟩
  | some (.file _) => .ok (d.remove loc)

/-- Makes one directory in an existing one. -/
def makeDirectory (d : Disk) (cwd : Location) (p : Path) : Except FileError Disk := do
  let loc ← d.locatePath cwd p
  if (d.find? loc).isSome then .error ⟨.alreadyExists, p⟩ else .ok (d.put loc .directory)

/-- Makes the directory and those above it that are missing; the first component is the disk with whatever
was made. An existing directory is fine. -/
def ensureDirectory (d : Disk) (cwd : Location) (p : Path) : (depth : Nat) → Disk × Except FileError Unit
  | 0 => (d, .error ⟨.noEntry, p⟩)
  | depth + 1 =>
    match d.makeDirectory cwd p with
    | .ok made => (made, .ok ())
    | .error e =>
      if e.fault = .noEntry then
        if p.parts = [] then (d, .error e)
        else
          match d.ensureDirectory cwd p.parent depth with
          | (above, .error e) => (above, .error e)
          | (above, .ok ()) =>
            match above.makeDirectory cwd p with
            | .ok made => (made, .ok ())
            | .error e => (above, if above.stat? cwd p = some .directory then .ok () else .error e)
      else (d, if d.stat? cwd p = some .directory then .ok () else .error e)

/-- The names in a directory, in order. -/
def names (d : Disk) (loc : Location) : List Bytes :=
  let names := d.entries.filterMap fun (l, _) => if l.dropLast = loc ∧ l ≠ loc then l.getLast? else none
  names.mergeSort fun a b => decide (a ≤ b)

/-- The files and the empty directories below a location, by their names from there on. -/
def listing (d : Disk) (base : Location) : List (Location × Entry) :=
  d.entries.filterMap fun (loc, e) =>
    if base.isPrefixOf loc ∧ base ≠ loc ∧ (e ≠ .directory ∨ !d.entries.any fun (l, _) => l.dropLast = loc) then
      some (loc.drop base.length, e)
    else none

end Disk

end Playbook
