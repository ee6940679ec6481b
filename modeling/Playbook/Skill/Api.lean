import Playbook.Conversation.Variables
import Playbook.Model.Client
import Playbook.Workspace.Host
/-!
# What a skill may do

A skill sees the conversations, variables and model of its session, the blocks of the playbook and the host.
It reads the selected conversation but queues what it has to say; the queue is recorded when the step ends.
-/

namespace Playbook

structure Api where
  contexts : Contexts
  bindings : Variables
  client : Option Client
  host : Host
  pending : List Message
  blocks : List Block
  index : Int
  root : Path

/-- A piece of work with the api, which may fail. -/
abbrev Work (α : Type) := ExceptT Failure (StateM Api) α

namespace Api

def nextBlock (api : Api) : Option Block := Playbook.nextBlock api.blocks api.index

def currentBlock (api : Api) : Option Block := if api.index < 0 then none else api.blocks[api.index.toNat]?

def history (api : Api) : List Message := api.contexts.messages []

end Api

namespace Work

/-! ### Conversations -/

def selectContext (name : WideString) : Work Unit := do
  match (← get).contexts.select name with
  | .ok contexts => modify ({ · with contexts := contexts })
  | .error _ => throw (.skill .blankContextName)

def queue (role content : WideString) : Work Unit := do
  match Message.parse role content with
  | .ok message => modify fun api => { api with pending := api.pending ++ [message] }
  | .error e => throw e

/-! ### The model -/

def client : Work Client := do
  match (← get).client with
  | some client => return client
  | none => throw (.skill .noModelClient)

def selectModel (model : WideString) : Work Unit := do
  match (← client).select model with
  | .ok client => modify ({ · with client := some client })
  | .error e => throw e

/-- Sends a message with the selected conversation as history. A model named here goes before the options. -/
def send (role content : WideString) (model : Option WideString) (options : RequestOptions) : Work Reply := do
  let client ← client
  let options := match model with
    | some model => if model = [] then options else { options with model := some model }
    | none => options
  let (client, answer) := client.send ⟨role, content, (← get).history, options⟩
  match answer with
  | .ok reply =>
    modify ({ · with client := some client })
    return reply
  | .error e => throw e

/-! ### Variables and the host -/

def setVariable (name : WideString) (value : Json) : Work Unit := do
  match (← get).bindings.setValue name value with
  | .ok bindings => modify ({ · with bindings := bindings })
  | .error e => throw e

def substitute (text : WideString) (keepUnknown : Bool) : Work WideString := do
  return (← get).bindings.substitute text keepUnknown

def ask (prompt : WideString) : Work WideString := do
  let (host, answer) := (← get).host.ask prompt
  modify ({ · with host := host })
  match answer with
  | .ok text => return text
  | .error e => throw e

end Work

end Playbook
