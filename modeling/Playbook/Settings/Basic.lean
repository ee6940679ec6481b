import Playbook.Workspace.Path
/-!
# Settings

What can be set: the model and how it is reached, where and how playbooks run, and how much is logged.
-/

namespace Playbook

inductive Provider where
  | anthropic
  | openai
  | local
  | echo
deriving Repr, DecidableEq

namespace Provider

def text : Provider → String
  | anthropic => "anthropic"
  | openai => "openai"
  | .local => "local"
  | echo => "echo"

def all : List Provider := [anthropic, openai, .local, echo]

def ofText? (s : String) : Option Provider := all.find? (·.text == s)

end Provider

inductive LogLevel where
  | debug
  | info
  | warning
  | error
deriving Repr, DecidableEq

namespace LogLevel

def text : LogLevel → String
  | debug => "debug"
  | info => "info"
  | warning => "warning"
  | error => "error"

def all : List LogLevel := [debug, info, warning, error]

def ofText? (s : String) : Option LogLevel := all.find? (·.text == s)

end LogLevel

structure Settings where
  provider : Provider
  defaultModel : String
  /-- In seconds. -/
  requestTimeout : Float
  maxRetries : Nat
  localUrl : String
  workspace : Option Path
  defaultContext : String
  executeTimeout : Option Float
  logLevel : LogLevel

namespace Settings

def standard : Settings where
  provider := .openai
  defaultModel := "gpt-4.1"
  requestTimeout := 8.0
  maxRetries := 3
  localUrl := "http://localhost:8000/v1"
  workspace := none
  defaultContext := "default"
  executeTimeout := none
  logLevel := .info

/-! ### Fields -/

/-- The fields, in the order in which they are declared. -/
inductive Field where
  | provider
  | model
  | timeout
  | retries
  | url
  | workspace
  | context
  | execute
  | level
deriving Repr, DecidableEq

namespace Field

def all : List Field := [provider, model, timeout, retries, url, workspace, context, execute, level]

def name : Field → String
  | provider => "provider"
  | model => "default_model"
  | timeout => "request_timeout_seconds"
  | retries => "max_retries"
  | url => "local_base_url"
  | workspace => "workspace_root"
  | context => "default_context"
  | execute => "execute_timeout_seconds"
  | level => "log_level"

def Value : Field → Type
  | provider => Provider
  | model | url | context => String
  | timeout => Float
  | retries => Nat
  | workspace => Option Path
  | execute => Option Float
  | level => LogLevel

/-- The value of the field in settings. -/
def of (s : Settings) : (f : Field) → f.Value
  | provider => s.provider
  | model => s.defaultModel
  | timeout => s.requestTimeout
  | retries => s.maxRetries
  | url => s.localUrl
  | workspace => s.workspace
  | context => s.defaultContext
  | execute => s.executeTimeout
  | level => s.logLevel

end Field

def fieldNames : List String := Field.all.map (·.name)

end Settings

end Playbook
