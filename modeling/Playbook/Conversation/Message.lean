import Playbook.Text.Wide
/-!
# Messages

One turn of a conversation. The agent role marks turns that the playbook itself writes.
-/

namespace Playbook

inductive Role where
  | user
  | assistant
  | agent
deriving Repr, DecidableEq

namespace Role

def text : Role → String
  | user => "user"
  | assistant => "assistant"
  | agent => "agent"

def all : List Role := [user, assistant, agent]

def ofText? (s : WideString) : Option Role := all.find? fun role => (role.text : WideString) = s

end Role

structure Message where
  role : Role
  content : WideString
deriving Repr, DecidableEq

namespace Message

def user (content : WideString) : Message := ⟨.user, content⟩

def assistant (content : WideString) : Message := ⟨.assistant, content⟩

def agent (content : WideString) : Message := ⟨.agent, content⟩

end Message

end Playbook
