import Playbook.Shell.Control
import Playbook.Shell.Fault
import Playbook.Shell.Reader
import Playbook.Shell.Utilities
/-!
# What runs under a name

A name may stand for a word of the language, a function, a command of the shell, a program, or a shell that runs
another script. A script that is run by another one sees only what that one exports.
-/

namespace Playbook.Shell

open Text (Bytes)

namespace Run

/-! ### Names of commands -/

/-- The name of a program that is given by its full path. -/
def programName (name : String) : String :=
  if name.startsWith "/bin/" ∨ name.startsWith "/usr/bin/" then Utilities.baseName name else name

def program? (name : String) : Option (List Bytes → Run Nat) := Utilities.all.lookup (programName name)

def dialect? (name : String) : Option Dialect :=
  match programName name with
  | "bash" => some .bash
  | "sh" | "dash" => some .sh
  | _ => none

inductive CommandKind where
  | keyword
  | function
  | builtin
  | program
deriving Repr, DecidableEq

def keywords (d : Dialect) : List String :=
  ["if", "then", "else", "elif", "fi", "case", "esac", "for", "while", "until", "do", "done", "\x7b", "\x7d", "!"]
    ++ if d = .bash then ["[[", "]]", "function", "select", "time", "in", "coproc"] else []

/-- Commands that a script cannot do without. -/
def specials : List String :=
  [".", ":", "break", "continue", "eval", "exec", "exit", "export", "readonly", "return", "set", "shift", "times", "trap", "unset"]

def isBuiltin (d : Dialect) (name : String) : Bool :=
  specials.contains name || ["command", "type"].contains name || (d == .bash && name == "source")
    || (Commands.find? d name).isSome

def kindOf (name : String) : Run (Option CommandKind) := do
  let p ← get
  return if (keywords p.dialect).contains name then some .keyword
    else if (p.functions.lookup name).isSome then some .function
    else if isBuiltin p.dialect name then some .builtin
    else if (program? name).isSome ∨ (dialect? name).isSome then some .program
    else none

def programPath (name : String) : String := if name.startsWith "/" then name else "/usr/bin/" ++ name

/-- What kind of command a name is, as a sentence. -/
def sentence (d : Dialect) (name : String) : CommandKind → String
  | .keyword => s!"{name} is a shell keyword"
  | .function => if d = .bash then s!"{name} is a function" else s!"{name} is a shell function"
  | .builtin => if d = .sh ∧ specials.contains name then s!"{name} is a special shell builtin" else s!"{name} is a shell builtin"
  | .program => s!"{name} is {programPath name}"

/-- Says of each name what it is. -/
def describe (command : String) (args : List Bytes) : Run Nat := do
  let known ← args.mapM fun arg => do
    let name := shown arg
    match ← kindOf name with
    | some kind =>
      say (sentence (← get).dialect name kind)
      return true
    | none =>
      if (← get).dialect = .bash then complainAt s!"{command}: {name}: not found" else complain s!"{name}: not found"
      return false
  if known.all id then return 0 else choose 1 127

/-- Says of names where their commands are; one of the shells looks at the first name only. -/
def point (args : List Bytes) : Run Nat := do
  let found ← (← choose args (args.take 1)).filterM fun arg => do
    let name := shown arg
    match ← kindOf name with
    | some .program =>
      say (programPath name)
      return true
    | some _ =>
      say name
      return true
    | none => return false
  if found.isEmpty then choose 1 127 else return 0

/-- No such command. A path may lead to something that cannot be run. -/
def missing (name : String) : Run Unit := do
  let (text, status) ← if name.contains '/' then
      match ← Utilities.entry? (bytes name) with
      | .ok (_, .directory) => do pure (← choose "Is a directory" "Permission denied", 126)
      | .ok (_, .file _) => pure ("Permission denied", 126)
      | .error fault => do pure (← choose fault.text "not found", 127)
    else do
      let text ← choose "command not found" (if name.isEmpty then "Permission denied" else "not found")
      pure (text, 127)
  complainAt s!"{name}: {text}"
  setStatus status

/-! ### Other scripts -/

/-- Another script, the shell for it, and what it is called with. -/
structure ScriptCall where
  dialect : Dialect
  script : String
  args : List Bytes
  lines : List Char
  /-- What is added to the name of the script where it cannot be read. -/
  note : String
  isStrict : Bool
  isWary : Bool

def refuseCall (text : String) (status : Nat) : Run (Option ScriptCall) := do
  complain text
  setStatus status
  return none

/-- What a shell is to run: a text, a file, or else its input. -/
def scriptCall (d : Dialect) (name : String) (args : List Bytes) : Run (Option ScriptCall) := do
  let (flags, args) := Utilities.options args
  let call (script : String) (args : List Bytes) (lines : Bytes) (note : String) : ScriptCall :=
    ⟨d, script, args, Text.decodeUtf8Lenient lines, note, flags.contains 'e', flags.contains 'u'⟩
  if flags.contains 'c' then
    match args with
    | [] => refuseCall (if d = .bash then s!"{name}: -c: option requires an argument" else s!"{name}: 0: -c requires an argument") 2
    | [lines] => return some (call name [] lines ": -c")
    | lines :: script :: args => return some (call (shown script) args lines ": -c")
  else
    match args with
    | [] => return some (call name [] (← Utilities.takeInput) "")
    | file :: args =>
      let script := shown file
      match ← slurp file, d with
      | .ok lines, _ => return some (call script args lines "")
      | .error .isDirectory, .bash => refuseCall s!"{script}: {script}: Is a directory" 126
      | .error .isDirectory, .sh => return some (call script args [] "")
      | .error fault, .bash => refuseCall s!"{name}: {script}: {fault.text}" 127
      | .error _, .sh => refuseCall s!"{name}: 0: cannot open {script}: No such file" 2

/-- The call of a file that can be run. Its first line may say by which shell. -/
def programCall? (name : String) (args : List Bytes) : Run (Option ScriptCall) := do
  let p ← get
  match (p.disk.locatePath p.cwd (path (bytes name))).toOption with
  | some loc =>
    match p.disk.find? loc with
    | some (.file b) =>
      if name.contains '/' ∧ p.programs.contains loc then
        let lines := Text.decodeUtf8Lenient b
        let first := String.ofList (lines.takeWhile (· ≠ '\n'))
        let d := if first.startsWith "#!" then (if first.endsWith "bash" then .bash else .sh) else p.dialect
        return some ⟨d, name, args, lines, "", false, false⟩
      else return none
    | _ => return none
  | none => return none

/-- The script of a call as a process of its own, which tells how it ended. -/
def ScriptCall.run (c : ScriptCall) (body : Run Unit) : Run Unit := do
  let outer := (← get).dialect
  isolate do
    modify fun p => { p with
      dialect := c.dialect, script := c.script, source := none, line := 1, args := c.args, functions := []
      bindings := p.bindings.filter fun (name, _) => p.exported.contains name
      status := 0, answer := none, isStrict := c.isStrict, tests := 0, isWary := c.isWary, isLinked := false
      loops := 0, outer := none }
    tryCatch body fun
      | .killed signal => do
        let isTold := outer == .sh || signal == 15
        if let some text := (signalText? signal).filter fun _ => isTold then complain text
        throw (.exit (128 + signal))
      | stop => throw stop

/-- The lines of a file that are to be run in the place of a command. -/
def linesOf? (command : String) (file : Bytes) : Run (Option (List Char)) := do
  let name := shown file
  match ← slurp file, (← get).dialect with
  | .ok b, .bash => return some (Text.decodeUtf8Lenient b)
  | .error .isDirectory, .bash => refuse s!"{command}: {name}: is a directory"
  | .error fault, .bash => refuse s!"{name}: {fault.text}"
  | result, .sh =>
    if !name.contains '/' then stop s!"{command}: {name}: not found"
    else match result with
      | .ok b => return some (Text.decodeUtf8Lenient b)
      | .error .isDirectory => return some []
      | .error _ => stop s!"{command}: cannot open {name}: No such file"
where
  refuse (text : String) : Run (Option (List Char)) := do
    complainAt text
    setStatus 1
    return none
  stop (text : String) : Run (Option (List Char)) := do
    complainAt text
    throw (.exit 2)

/-- Runs lines one by one; one that cannot be read ends the script there. Tells whether all could be read. -/
def play (lines : List Char) (first : Nat) (note : String) (run : List Command → Run Unit) : Run Bool := do
  let d := (← get).dialect
  let s := Script.read d lines first
  s.lines.forM run
  match s.fault with
  | none => return true
  | some (here, fault) =>
    modify ({ · with line := fault.line d lines here })
    let p ← get
    sourced (if d = .bash then some (p.source.getD p.script ++ note) else p.source) do
      complainAt (fault.text d)
      if d = .bash ∧ fault.isUnexpected then
        let shown := String.ofList ((Text.rawLines lines)[here - first]?.getD [])
        complainAt s!"`{shown}'"
    return false

/-- Plays a whole script. -/
def playAll (lines : List Char) (note : String) (run : List Command → Run Unit) : Run Unit := do
  if !(← play lines 1 note run) then throw (.exit 2)

/-- Plays lines inside of a script, which goes on behind them if it can. -/
def playInside (lines : List Char) (first : Nat) (note : String) (run : List Command → Run Unit) : Run Unit := do
  setStatus 0
  if !(← play lines first note run) then
    if (← get).dialect = .sh then throw (.exit 2)
    setStatus 2

/-- Runs the lines of a file until one of them comes back. -/
def untilBack (run : Run Unit) : Run Unit := tryCatch run fun
  | .back code => setStatus code
  | stop => throw stop

end Run

end Playbook.Shell
