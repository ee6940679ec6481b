import Playbook.CommandLine.Invocation
import Playbook.Document.Listing
import Playbook.Model.Plan
import Playbook.Session.Record
import Playbook.Session.Workbench
import Playbook.Settings.Load
import Playbook.Skill.Builtin
/-!
# The program

What an invocation does to the host, and what it writes. The code is nought if all went well, one if something
was wrong with files, settings or the playbook, and two for a wrong command line; a failure that no playbook is
known to have takes the place of the code.
-/

namespace Playbook.CommandLine

/-- What the program is built on. -/
structure Libraries where
  settings : Settings.Library
  network : Network

/-- The host as the program leaves it, and the texts that it hands to the terminal. -/
structure Finish where
  host : Host
  output : WideString
  errors : WideString
  code : Except Failure Nat

namespace Finish

def new (host : Host) : Finish := ⟨host, [], [], .ok 0⟩

def print (f : Finish) (line : WideString) : Finish := { f with output := f.output ++ line ++ "\n" }

def printError (f : Finish) (line : WideString) : Finish := { f with errors := f.errors ++ line ++ "\n" }

def exit (f : Finish) (code : Nat) : Finish := { f with code := .ok code }

def raise (f : Finish) (failure : Failure) : Finish := { f with code := .error failure }

/-- Reports an expected failure with its details under a title; any other failure is passed on. -/
def report (f : Finish) (title : String) (failure : Failure) : Finish :=
  if failure.isExpected then
    let f := f.printError (title ++ ": " ++ failure.message)
    (failure.details.foldl (fun f detail => f.printError s!"  {detail}") f).exit 1
  else f.raise failure

end Finish

/-- Answers to questions, one from each line of a text. -/
def answersOf (input : String) : Answers where
  left := (Text.rawLines input.toList).map fun line => some (.ofChars line)
  whenUsedUp := .host .endOfInput "EOF when reading a line"

/-- The text of the file, if there is one. -/
def readFile? (h : Host) (file : String) : Except Failure (Option String) := do
  let path := Path.ofString file
  if ← TextFile.isThere h.disk h.cwd path then
    return some (String.ofList (← TextFile.read h.disk h.cwd path))
  else return none

def noFile (h : Host) (file : String) : Finish := ((Finish.new h).printError s!"File not found: {file}").exit 1

/-! ### Parsing -/

def parseText (h : Host) (asJson : Bool) (text : String) : Finish :=
  let d := Document.parse text
  ((Finish.new h).print (if asJson then d.json.render else ↑(Listing.text d))).exit (if d.isExecutable then 0 else 1)

def parse (h : Host) (file : String) (asJson : Bool) : Finish :=
  match readFile? h file with
  | .error f => (Finish.new h).raise f
  | .ok none => noFile h file
  | .ok (some text) => parseText h asJson text

/-! ### Running -/

/-- The path without detours; what cannot be reached stays as it is written. -/
def resolve (h : Host) (path : Path) : Path :=
  match h.disk.locatePath h.cwd path with
  | .ok loc => ⟨"/", loc.map Text.decodeName⟩
  | .error _ => h.cwdPath.below path

/-- Playbooks work in the directory that is asked for, or set, or else where the playbook is. -/
def workspaceOf (s : Settings) (asked : Option String) (file : Path) : Path :=
  match asked.filter (· ≠ "") with
  | some path => .ofString path
  | none => s.workspace.getD file.parent

def messageLine (m : Message) : WideString := s!"[{m.role.text}] " ++ m.content

/-- What is written of a run that came to its end. -/
def finishRun (f : Finish) (asJson : Bool) (r : RunReport) (messages : List Message) : Finish :=
  let f := if asJson then f.print r.json.render else messages.foldl (fun f m => f.print (messageLine m)) f
  match r.ending with
  | .completed => f
  | .failed line failure => (f.printError (s!"Failed at line {line}: " ++ failure.message)).exit 1
  | .stopped => (f.printError "Execution stopped").exit 1

def runText (h : Host) (s : Settings) (id : String) (client : Client) (asJson : Bool) (text : String) : Finish :=
  let registry := Builtin.registry (s.executeTimeout.map TimeLimit.ofFloat)
  let (w, entered) := (Workbench.new registry s (some client) h).enter ⟨id, text, .nobody⟩
  let (w, t) := w.addTask entered
  let w := w.run
  let f := { Finish.new w.host with output := w.host.prompts.flatMap (· ++ ": ") }
  match w.task t with
  | .ended (.report r) => finishRun f asJson r (((w.sessions.get? id).map fun s => s.contexts.messages []).getD [])
  | .ended (.failure failure) => f.report "Error" failure
  | _ => f

def run (l : Libraries) (h : Host) (s : Settings) (file : String) (provider model workspace : Option String)
    (asJson : Bool) : Finish :=
  match readFile? h file with
  | .error f => (Finish.new h).raise f
  | .ok none => noFile h file
  | .ok (some text) =>
    let path := resolve h (.ofString file)
    let s := { s with workspace := some (workspaceOf s workspace path) }
    match ClientPlan.ofSettings l.network s provider model with
    | .error f => (Finish.new h).report "Error" f
    | .ok plan => runText h s path.text.plain plan.client asJson text

/-! ### Listing skills -/

def parameterLine (p : Parameter) : String :=
  let mark := if p.isRequired then " (required)" else ""
  s!"      --{p.name}{mark}: {p.description}"

def skillLines (s : Skill) : List String := s!"  @{s.name}: {s.description}" :: s.parameters.map parameterLine

def listSkills (h : Host) : Finish :=
  let lines := "Available Skills:" :: "".pushn '-' 40 :: (Builtin.registry none).skills.flatMap skillLines
  lines.foldl (fun f (line : String) => f.print line) (Finish.new h)

/-! ### Everything -/

def carryOut (l : Libraries) (h : Host) (s : Settings) : Task → Finish
  | .parse file asJson => parse h file asJson
  | .run file provider model workspace asJson => run l h s file provider model workspace asJson
  | .listSkills => listSkills h

/-- Settings are loaded only if there is something to do. -/
def invoke (l : Libraries) (h : Host) (env : Settings.Environment) (i : Invocation) : Finish :=
  let f := Finish.new h
  match i.task with
  | none => { f with output := mainGrammar.helpText, code := .ok 1 }
  | some task =>
    match Settings.load l.settings h.disk h.cwd env i.config with
    | .error failure => f.report "Configuration error" failure
    | .ok s => carryOut l h s task

def start (l : Libraries) (h : Host) (env : Settings.Environment) (args : List String) : Finish :=
  let f := Finish.new h
  match Invocation.read args with
  | .error (.help text) => { f with output := text }
  | .error (.misuse text) => { f with errors := text, code := .ok 2 }
  | .ok i => invoke l h env i

end Playbook.CommandLine
