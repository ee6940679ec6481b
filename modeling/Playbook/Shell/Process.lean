import Playbook.Workspace.Launch
import Playbook.Shell.Syntax
import Playbook.Workspace.Disk
/-!
# Shell processes

What a running script holds: the disk and where it stands on it, its variables, where its output goes and what
is left of its input. What is written goes to one of several buffers, or to a file. Time passes only while the
script sleeps.
-/

namespace Playbook.Shell

open Text (Bytes)

inductive Sink where
  | buffer (n : Nat)
  | file (loc : Location)
  | nowhere
deriving Repr, DecidableEq

/-- Why a row of commands ends before its last one. -/
inductive Stop where
  | exit (code : Nat)
  | killed (signal : Nat)
  /-- The time limit was reached, or the script goes on without an end. -/
  | late
  /-- Out of a number of loops, or on to the next round of the outermost of them. -/
  | leave (loops : Nat)
  | next (loops : Nat)
  /-- Back from a function. -/
  | back (code : Nat)
deriving Repr, DecidableEq

/-- What was written, the last piece first. -/
abbrev Buffer := List Bytes

def Buffer.bytes (b : Buffer) : Bytes := b.reverse.flatten

structure Process where
  dialect : Dialect
  script : String
  /-- Where the lines come from that are being run, if it is not the script itself. -/
  source : Option String
  line : Nat
  disk : Disk
  /-- The files that can be run. -/
  programs : List Location
  cwd : Location
  args : List Bytes
  bindings : List (String × Bytes)
  /-- The variables that other programs are told of. -/
  exported : List String
  functions : List (String × Command)
  buffers : List Buffer
  output : Sink
  error : Sink
  input : Bytes
  status : Nat
  /-- How the last command ended whose output was taken into the present one. -/
  answer : Option Nat
  slept : Nat
  limit : Option TimeLimit
  /-- Whether a failing command ends the script, and how many tests are being made meanwhile. -/
  isStrict : Bool
  tests : Nat
  /-- Whether a variable without a value ends the script. -/
  isWary : Bool
  /-- Whether a pipe fails with any of its commands. -/
  isLinked : Bool
  /-- How many loops are being run. -/
  loops : Nat
  /-- In a function, what its own variables were outside. -/
  outer : Option (List (String × Option Bytes))

abbrev Run (α : Type) := ExceptT Stop (StateM Process) α

namespace Run

def bytes (s : String) : Bytes := Text.encodeUtf8 s.toList

def shown (b : Bytes) : String := String.ofList (Text.decodeUtf8Lenient b)

/-! ### Output -/

def writeTo (sink : Sink) (added : Bytes) : Run Unit := modify fun p =>
  match sink with
  | .nowhere => p
  | .buffer n => { p with buffers := p.buffers.modify n (added :: ·) }
  | .file loc =>
    match p.disk.find? loc with
    | some (.file old) => { p with disk := p.disk.put loc (.file (old ++ added)) }
    | _ => p

def write (added : Bytes) : Run Unit := do writeTo (← get).output added

def say (text : String) : Run Unit := write (bytes (text ++ "\n"))

def complain (text : String) : Run Unit := do writeTo (← get).error (bytes (text ++ "\n"))

/-- A complaint of the shell itself names the script and the line. -/
def complainAt (text : String) : Run Unit := do
  let p ← get
  match p.dialect, p.source with
  | .bash, source => complain s!"{source.getD p.script}: line {p.line}: {text}"
  | .sh, some source => complain s!"{p.script}: {p.line}: {source}: {text}"
  | .sh, none => complain s!"{p.script}: {p.line}: {text}"

def choose {α : Type} (bash sh : α) : Run α := do
  return match (← get).dialect with
    | .bash => bash
    | .sh => sh

/-- Complains in the words of the shell, each of which has a status for it. -/
def refuse (bash sh : String) (status : Nat) : Run Nat := do
  complainAt (← choose bash sh)
  choose status 2

/-- One of the shells ends the script over such a complaint. -/
def refuseOrEnd (bash sh : String) (status : Nat) : Run Nat := do
  let status ← refuse bash sh status
  if (← get).dialect = .sh then throw (.exit status)
  return status

/-- Runs lines that come from somewhere else. -/
def sourced {α : Type} (source : Option String) (run : Run α) : Run α := do
  let p ← get
  let (result, q) := run.run { p with source := source }
  set { q with source := p.source }
  match result with
  | .ok a => return a
  | .error stop => throw stop

/-! ### Variables -/

/-- The path of a location, from the root on. -/
def pathOf (loc : Location) : Bytes := 47 :: [47].intercalate loc

def lookup? (name : String) : Run (Option Bytes) := do
  let p ← get
  return match name with
    | "?" => some (bytes (toString p.status))
    | "$" => some (bytes "4242")
    | "#" => some (bytes (toString p.args.length))
    | "0" => some (bytes p.script)
    | "-" => some (bytes "hB")
    | "@" | "*" => some ([32].intercalate p.args)
    | "PWD" => some (pathOf p.cwd)
    | "LINENO" => if p.dialect = .bash then some (bytes (toString p.line)) else none
    | name =>
      match name.toNat? with
      | some n => p.args[n - 1]?
      | none => p.bindings.lookup name

def lookup (name : String) : Run Bytes := do return (← lookup? name).getD []

def assign (name : String) (value : Bytes) : Run Unit := modify fun p =>
  { p with bindings := (name, value) :: p.bindings.filter (·.1 ≠ name) }

/-- Gives a variable back what it was. -/
def restore (name : String) (old : Option Bytes) : Run Unit :=
  match old with
  | some value => assign name value
  | none => modify fun p => { p with bindings := p.bindings.filter (·.1 ≠ name) }

/-- What parts the words in a text. -/
def separators : Run Bytes := do return ((← get).bindings.lookup "IFS").getD [32, 9, 10]

/-! ### Files -/

def path (name : Bytes) : Path := .ofString (Text.decodeName name)

/-- The bytes of a file. -/
def slurp (name : Bytes) : Run (Except FileFault Bytes) := do
  let p ← get
  return if name.isEmpty then .error .noEntry
    else if shown name = "/dev/null" then .ok []
    else (p.disk.readBytes p.cwd (path name)).mapError (·.fault)

/-- Makes the file, emptied unless it is to be appended to, and gives its location. -/
def openForWriting (name : Bytes) (keep : Bool) : Run (Except FileFault Sink) := do
  let p ← get
  if name.isEmpty then return .error .noEntry
  match shown name with
  | "/dev/null" => return .ok .nowhere
  | "/dev/stdout" => return .ok p.output
  | "/dev/stderr" => return .ok p.error
  | _ =>
    let old := match p.disk.readBytes p.cwd (path name) with
      | .ok old => if keep then old else []
      | .error _ => []
    match p.disk.writeBytes p.cwd (path name) old, p.disk.locatePath p.cwd (path name) with
    | .ok disk, .ok loc =>
      set { p with disk := disk }
      return .ok (.file loc)
    | .error e, _ | _, .error e => return .error e.fault

/-! ### Time -/

def sleep (micros : Nat) : Run Unit := do
  modify fun p => { p with slept := p.slept + micros }
  let p ← get
  match p.limit with
  | some limit => if limit.micros ≤ p.slept then throw .late
  | none => return

end Run

end Playbook.Shell
