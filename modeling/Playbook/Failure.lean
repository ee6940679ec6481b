import Playbook.Document.Block
import Playbook.Execution.Machine
import Playbook.Settings.Check
import Playbook.Workspace.FileError
/-!
# Failures

Everything that can go wrong while a playbook runs, by cause, with the message for each cause.
-/

namespace Playbook

/-! ### Parameters -/

inductive ParameterFault where
  | blank (parameter : String)
  | noContextName
  | blankContextName
  | missing (parameter : String)
  | unknownAction (shown : WideString)
  | noContent
  | required (skill : String) (names : List String)
deriving Repr, DecidableEq

def ParameterFault.message : ParameterFault → WideString
  | blank parameter => s!"Missing or invalid {parameter}. Provide a non-empty {parameter}."
  | noContextName => "Missing context name"
  | blankContextName => "Invalid context name: empty string"
  | missing parameter => s!"Missing required parameter: {parameter}"
  | unknownAction shown => "Invalid action: " ++ shown ++ ". Must be one of: read, write, delete"
  | noContent => "Missing required parameter for write action: content"
  | required skill names =>
    let list := ", ".intercalate names
    s!"Missing required parameter(s) for @{skill}: {list}"

/-! ### Skills at work -/

inductive SkillFault where
  | reported (text : WideString)
  | blankContextName
  | noModelClient
  | noInputProvider
  | inputCancelled
  | noNextBlock
  | notCode (found : String)
  | noLanguage
  | emptyCode
  | unsupportedLanguage (language : String) (supported : List String)
  | noInterpreter (command : String)
  | exitCode (code : Int) (output : String)
  | timedOut (seconds : String)
  | wrongResult (skill : String) (kind : String)
  | cannotRead (error : FileError)
  | cannotWrite (path : Path) (error : FileError)
  | cannotDelete (error : FileError)
deriving Repr, DecidableEq

def SkillFault.message : SkillFault → WideString
  | reported text => text
  | blankContextName => "Invalid context name: empty string"
  | noModelClient => "No model client configured for this session"
  | noInputProvider => "No input provider available for this session"
  | inputCancelled => "User cancelled input"
  | noNextBlock =>
    "No code block found after execute skill. Ensure a code block immediately follows the @execute annotation."
  | notCode found =>
    s!"Next block is not a code block. Found: {found}. Ensure a code block (enclosed in triple backticks) follows the @execute annotation."
  | noLanguage =>
    "Code block is missing language metadata. Specify a language after the opening backticks (e.g., ```bash)."
  | emptyCode => "Code block is empty. Provide code to execute."
  | unsupportedLanguage language supported =>
    let list := ", ".intercalate supported
    s!"Unsupported language: {language}. Supported languages: {list}"
  | noInterpreter command => s!"Interpreter not found: {command}"
  | exitCode code output => s!"Code execution failed with exit code {code}: {output}"
  | timedOut seconds => s!"Code execution timed out after {seconds} seconds"
  | wrongResult skill kind => s!"Skill '{skill}' returned {kind}, expected SkillResult"
  | cannotRead error => "Failed to read file " ++ error.path.text ++ s!": {error.message}"
  | cannotWrite path error => "Failed to write file " ++ path.text ++ s!": {error.message}"
  | cannotDelete error => "Failed to delete file " ++ error.path.text ++ s!": {error.message}"

/-! ### Models -/

inductive ModelFault where
  | reported (text : WideString)
  | unknownRole (role : WideString)
  | agentRole
  | noModel (client : String)
  | requestFailed (text : WideString)
  | listFailed (text : WideString)
  | noChoices
deriving Repr, DecidableEq

def ModelFault.message : ModelFault → WideString
  | reported text => text
  | unknownRole role => "Unknown message role: " ++ role
  | agentRole => "'agent' role is not valid for model requests. Only 'user' or 'assistant' are allowed."
  | noModel client => s!"No model selected for {client} client"
  | requestFailed text => "Model request failed: " ++ text
  | listFailed text => "Could not list local models: " ++ text
  | noChoices => "Model returned no choices"

inductive SelectionFault where
  | unknown (model : WideString)
  | unavailable (model text : WideString)
  | unserved (model : WideString) (server : String)
  | failed (model text : WideString)
deriving Repr, DecidableEq

def SelectionFault.message : SelectionFault → WideString
  | unknown model => "Unknown model: " ++ model
  | unavailable model text => "Model \"" ++ model ++ "\" is not available: " ++ text
  | unserved model server => "Model \"" ++ model ++ s!"\" is not available on {server}"
  | failed model text => "Could not select model \"" ++ model ++ "\": " ++ text

/-! ### Settings -/

inductive ConfigFault where
  | unknownProvider (name : String)
  | notFound (path : Path)
  | unreadable (path : Path)
  | notMapping (path : Path)
  | invalid (faults : List FieldFault)
deriving Repr, DecidableEq

def ConfigFault.message : ConfigFault → WideString
  | unknownProvider name => s!"Unknown provider: {name}"
  | notFound path => "Config file not found: " ++ path.text
  | unreadable path => "Failed to read config file " ++ path.text
  | notMapping path => "Config file " ++ path.text ++ " must contain a mapping"
  | invalid _ => "Invalid configuration"

/-! ### The host -/

/-- What kind of error the host, or a skill of the host, reports in its own words. No playbook is known to have one. -/
inductive HostFault where
  | value
  | type
  | attribute
  | key
  | index
  | overflow
  | url
  | encoding
  | decoding
  | recursion
  | runtime
  | json
  | endOfInput
deriving Repr, DecidableEq

/-! ### All together -/

inductive Failure where
  | unknownRole (name : WideString)
  | blankContextName
  | variableNotText (kind : String)
  | namelessSkill
  | unknownSkill (name : String) (available : List String)
  | parameter (fault : ParameterFault)
  | skill (fault : SkillFault)
  | model (fault : ModelFault)
  | selection (fault : SelectionFault)
  | refused (refusal : Refusal)
  | noSession (id : String)
  | notExecutable (problems : List Problem)
  | config (fault : ConfigFault)
  | settingNameNotText
  | undecodable (error : Text.Utf8Error)
  | unencodable (error : Text.Unencodable)
  | path (fault : PathFault)
  | unknownHome
  | file (error : FileError)
  | host (fault : HostFault) (text : WideString)
  /-- Whatever else a playbook is known to fail with, in the words of a host. -/
  | general (text : WideString)
deriving Repr, DecidableEq

namespace Failure

/-- The names in the order of their characters. -/
def sortNames (names : List String) : List String := names.mergeSort fun a b => decide (a ≤ b)

def message : Failure → WideString
  | unknownRole name => s!"{Text.quoted name} is not a valid Role"
  | blankContextName => "Invalid context name: empty string"
  | variableNotText kind => s!"Variable value must be a string. Got: {kind}"
  | namelessSkill => "Skill must have a non-empty name"
  | unknownSkill name available =>
    let list := ", ".intercalate (sortNames available)
    if available.isEmpty then s!"Skill not found: {name}" else s!"Skill not found: {name} (available: {list})"
  | parameter fault => fault.message
  | skill fault => fault.message
  | model fault => fault.message
  | selection fault => fault.message
  | refused refusal => refusal.message
  | noSession id => s!"No open session: {id}"
  | notExecutable _ => "Playbook has critical parse errors"
  | config fault => fault.message
  | settingNameNotText => "keywords must be strings"
  | undecodable error => error.message
  | unencodable error => error.message
  | path fault => fault.message
  | unknownHome => "Could not determine home directory."
  | file error => error.message
  | host _ text => text
  | general text => text

def problemDetail (p : Problem) : String :=
  match p.line with
  | some line => s!"line {line}: {p.message}"
  | none => s!"line None: {p.message}"

/-- Whether the failure is one that playbooks are known to have; such a failure is reported, any other one passed on. -/
def isExpected : Failure → Bool
  | unknownSkill .. | parameter _ | skill _ | model _ | selection _ | refused _ | noSession _ | notExecutable _ | config _
  | general _ => true
  | _ => false

/-- The lines that go with the message. -/
def details : Failure → List String
  | parameter (.required _ names) => names
  | notExecutable problems => problems.map problemDetail
  | config (.invalid faults) => faults.map (·.message)
  | _ => []

end Failure

end Playbook
