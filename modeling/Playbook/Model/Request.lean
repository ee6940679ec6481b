import Playbook.Conversation.Context
import Playbook.Text.Json
/-!
# Requests to a model

A request is one new message with the conversation before it. What answers it is a client, which has a
default model and a selected one.
-/

namespace Playbook

structure RequestOptions where
  model : Option WideString
  temperature : Option Json
  maxTokens : Int
deriving Inhabited

def RequestOptions.standard : RequestOptions := ⟨none, none, 4096⟩

structure Request where
  role : WideString
  content : WideString
  history : List Message
  options : RequestOptions

/-- Usage counts stay as the server sent them. -/
structure Reply where
  text : Json
  model : Json
  usage : Json.Fields

namespace Request

/-- Only people and the model take part in a chat. -/
def checkRole (role : WideString) : Except Failure Role :=
  match Role.ofText? role with
  | none => .error (.model (.unknownRole role))
  | some .agent => .error (.model .agentRole)
  | some role => .ok role

/-- Turns of the playbook are sent as turns of the user. -/
def chatRole : Role → Role
  | .agent => .user
  | role => role

def transcript (history : List Message) (role : Role) (content : WideString) : List Message :=
  history.map (fun m => ⟨chatRole m.role, m.content⟩) ++ [⟨role, content⟩]

end Request

/-! ### The choice of a model -/

structure ModelChoice where
  default : Option WideString
  selected : Option WideString
deriving Repr, DecidableEq

namespace ModelChoice

def new (default : Option WideString) : ModelChoice := ⟨default, default⟩

def reset (c : ModelChoice) : ModelChoice := { c with selected := c.default }

def select (c : ModelChoice) (model : WideString) : ModelChoice := { c with selected := some model }

/-- The model of the request where it names one, else the selected model. -/
def resolve (c : ModelChoice) (client : String) (options : RequestOptions) : Except Failure WideString :=
  match (options.model.filter (· ≠ [])).or c.selected with
  | some model => if model = [] then .error (.model (.noModel client)) else .ok model
  | none => .error (.model (.noModel client))

end ModelChoice

end Playbook
