import Playbook.Skill.Basic
/-!
# The execute skill

Runs the code block after its directive. What the code printed, both channels together, becomes a message and
may go into a variable; a failing run fails the step.
-/

namespace Playbook.Execute

/-- What runs a language: the command, and the ending of a script's name. -/
structure Interpreter where
  command : String
  ending : String
deriving Repr, DecidableEq

def interpreters (python : String) : List (String × Interpreter) := [
  ("bash", ⟨"bash", ".sh"⟩),
  ("sh", ⟨"sh", ".sh"⟩),
  ("python", ⟨python, ".py"⟩),
  ("python3", ⟨python, ".py"⟩),
  ("javascript", ⟨"node", ".js"⟩),
  ("js", ⟨"node", ".js"⟩)]

/-- The interpreter for the code block after the directive, and the code. -/
def payload (api : Api) : Except Failure (Interpreter × String) :=
  let known := interpreters api.host.python
  match api.nextBlock with
  | none => .error (.skill .noNextBlock)
  | some block =>
    if block.name ≠ Block.codeName then .error (.skill (.notCode block.name))
    else match block.language with
      | none => .error (.skill .noLanguage)
      | some language =>
        if language.isEmpty then .error (.skill .noLanguage)
        else if Text.blank block.content then .error (.skill .emptyCode)
        else match known.lookup language.toLower with
          | none => .error (.skill (.unsupportedLanguage language (known.map (·.1))))
          | some interpreter => .ok (interpreter, block.content)

def launchOf (api : Api) (i : Interpreter) (limit : Option TimeLimit) : Launch where
  command := i.command
  script := .ofString (api.host.scratch.text ++ i.ending)
  directory := api.root
  limit := limit

/-- The trimmed output of a run that ended well. -/
def outputOf (l : Launch) : Launched → Except Failure String
  | .notFound => .error (.skill (.noInterpreter l.command))
  | .refused failure => .error failure
  | .timedOut => .error (.skill (.timedOut ((l.limit.map (·.text)).getD "None")))
  | .exited code output =>
    let output := Text.strip (String.ofList (Text.decodeUtf8Lenient output))
    if code = 0 then .ok output else .error (.skill (.exitCode code output))

/-- Makes the script, has it run and removes it, whatever came of it. -/
def runScript (h : Host) (l : Launch) (code : String) : Disk × Except Failure String :=
  match h.disk.createFile h.cwd l.script (Text.encodeUtf8 code.toList) with
  | .error e => (h.disk, .error (.file e))
  | .ok disk =>
    let (disk, launched) := h.launch l h.cwd disk
    ((disk.deleteFile h.cwd l.script).toOption.getD disk, outputOf l launched)

def run (limit : Option TimeLimit) : Work String := do
  let api ← get
  let (interpreter, code) ← ofExcept (payload api)
  let (disk, output) := runScript api.host (launchOf api interpreter limit) code
  modify fun api => { api with host := { api.host with disk := disk } }
  ofExcept output

def work (limit : Option TimeLimit) (args : Arguments) : Work Product := do
  let output ← run limit
  if let some name := filled? (args.lookup "variable") then Work.setVariable name.strip (.str output)
  return .messages (if output.isEmpty then [] else [.assistant output])

def skill (limit : Option TimeLimit) : Skill :=
  .ofWork "execute" "Execute the code block following the annotation and return its output."
    [⟨"variable", "Variable name to store the execution output", false⟩] true (work limit)

end Playbook.Execute
