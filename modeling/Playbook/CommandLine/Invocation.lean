import Playbook.CommandLine.Grammar
import Playbook.Settings.Basic
/-!
# Invocations

The command line of the program: what it can be told to do, and its words on how it is used.
-/

namespace Playbook.CommandLine

inductive Task where
  | parse (file : String) (asJson : Bool)
  | run (file : String) (provider model workspace : Option String) (asJson : Bool)
  | listSkills
deriving Repr, DecidableEq

structure Invocation where
  /-- The file with the settings. -/
  config : Option String
  /-- Nothing is to be done without a command. -/
  task : Option Task
deriving Repr, DecidableEq

/-! ### The options -/

def helpOption : OptionSpec := ⟨["-h", "--help"], .help⟩

def jsonOption : OptionSpec := ⟨["--json"], .toggle⟩

def valueOption (name : String) : OptionSpec := ⟨[name], .value []⟩

def fileOperand : Operand := .one "file"

/-! ### The program -/

def program : String := "brainy"

def mainUsage : String := "usage: brainy [-h] [--config CONFIG] \x7bparse,run,list-skills\x7d ...\n"

def mainHelp : String := "
Parse and run Brainy markdown playbooks

positional arguments:
  \x7bparse,run,list-skills\x7d
                        Available commands
    parse               Parse a playbook and print its blocks
    run                 Execute a playbook
    list-skills         List built-in skills

options:
  -h, --help            show this help message and exit
  --config CONFIG       YAML settings file (defaults to .brainy/config.yaml
                        when present)
"

def mainGrammar : Grammar where
  program := program
  usage := mainUsage
  help := mainHelp
  options := [helpOption, valueOption "--config"]
  operand := some (.command "command" ["parse", "run", "list-skills"])

/-! ### The commands -/

def parseUsage : String := "usage: brainy parse [-h] [--json] file\n"

def parseHelp : String := "
positional arguments:
  file        Markdown playbook to parse

options:
  -h, --help  show this help message and exit
  --json      Print the parse result as JSON
"

def parseGrammar : Grammar where
  program := program ++ " parse"
  usage := parseUsage
  help := parseHelp
  options := [helpOption, jsonOption]
  operand := some fileOperand

def runUsage : String := "usage: brainy run [-h] [--provider \x7banthropic,openai,local,echo\x7d]
                  [--model MODEL] [--workspace WORKSPACE] [--json]
                  file
"

def runHelp : String := "
positional arguments:
  file                  Markdown playbook to run

options:
  -h, --help            show this help message and exit
  --provider \x7banthropic,openai,local,echo\x7d
                        Model provider (defaults to the configured provider)
  --model MODEL         Model selected before the first block runs
  --workspace WORKSPACE
                        Working directory for file and execute skills
  --json                Print the execution result as JSON
"

def runGrammar : Grammar where
  program := program ++ " run"
  usage := runUsage
  help := runHelp
  options := [helpOption, ⟨["--provider"], .value (Provider.all.map (·.text))⟩, valueOption "--model",
    valueOption "--workspace", jsonOption]
  operand := some fileOperand

def listUsage : String := "usage: brainy list-skills [-h]\n"

def listHelp : String := "
options:
  -h, --help  show this help message and exit
"

def listGrammar : Grammar where
  program := program ++ " list-skills"
  usage := listUsage
  help := listHelp
  options := [helpOption]
  operand := none

/-! ### Reading -/

namespace Invocation

/-- The task that a command names, and the words that are left over. -/
def readTask (command : String) (args : List String) : Except Stop (Task × List String) :=
  match command with
  | "parse" => do
    let r ← parseGrammar.read args
    return (.parse (r.operands.headD "") (r.isGiven "--json"), r.leftOver)
  | "run" => do
    let r ← runGrammar.read args
    return (.run (r.operands.headD "") (r.value? "--provider") (r.value? "--model") (r.value? "--workspace")
      (r.isGiven "--json"), r.leftOver)
  | _ => do
    let r ← listGrammar.read args
    return (.listSkills, r.leftOver)

/-- Nothing may be left over. -/
def requireUsed (leftOver : List String) : Except Stop Unit :=
  if leftOver.isEmpty then .ok ()
  else
    let list := " ".intercalate leftOver
    .error (mainGrammar.misuse s!"unrecognized arguments: {list}")

def read (args : List String) : Except Stop Invocation := do
  let r ← mainGrammar.read args
  match r.operands with
  | [] =>
    requireUsed r.leftOver
    return ⟨r.value? "--config", none⟩
  | command :: args =>
    let (task, leftOver) ← readTask command args
    requireUsed (r.leftOver ++ leftOver)
    return ⟨r.value? "--config", some task⟩

end Invocation

end Playbook.CommandLine
