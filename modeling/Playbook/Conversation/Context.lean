import Playbook.Conversation.Message
import Playbook.Failure
/-!
# Contexts

The conversations of a session, by name, one of them selected. Selecting a name for the first time makes
the conversation; messages go to the selected one.
-/

namespace Playbook

def Role.parse (name : WideString) : Except Failure Role :=
  match ofText? name with
  | some role => .ok role
  | none => .error (.unknownRole name)

def Message.parse (role content : WideString) : Except Failure Message := do return ⟨← Role.parse role, content⟩

structure Contexts where
  conversations : List (WideString × List Message)
  selected : WideString
  home : WideString
deriving Repr, DecidableEq

namespace Contexts

def find? (c : Contexts) (name : WideString) : Option (List Message) := c.conversations.lookup name

def names (c : Contexts) : List WideString := c.conversations.map (·.1)

/-- Blanks around the name do not count; a blank name is turned down. -/
def select (c : Contexts) (name : WideString) : Except Failure Contexts :=
  let name := name.strip
  if name.isEmpty then .error .blankContextName
  else if (c.find? name).isSome then .ok { c with selected := name }
  else .ok { c with conversations := c.conversations ++ [(name, [])], selected := name }

/-- Contexts in which only the home conversation exists. -/
def new (home : WideString) : Except Failure Contexts := Contexts.select ⟨[], [], home⟩ home

/-- The messages of a conversation; without a name, of the selected one. -/
def messages (c : Contexts) (name : WideString) : List Message :=
  (c.find? (if name.isEmpty then c.selected else name)).getD []

/-- Appends to the selected conversation. -/
def extend (c : Contexts) (added : List Message) : Contexts :=
  { c with conversations := c.conversations.map fun (name, old) =>
      if name = c.selected then (name, old ++ added) else (name, old) }

def append (c : Contexts) (m : Message) : Contexts := c.extend [m]

def add (c : Contexts) (role content : WideString) : Except Failure Contexts := do
  return c.append (← Message.parse role content)

/-- Drops every conversation and selects the home one again. -/
def clear (c : Contexts) : Except Failure Contexts := new c.home

end Contexts

end Playbook
