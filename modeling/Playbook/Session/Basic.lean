import Playbook.Conversation.Context
import Playbook.Conversation.Variables
import Playbook.Document.Parse
import Playbook.Execution.Boundary
import Playbook.Model.Client
import Playbook.Session.Report
import Playbook.Settings.Basic
/-!
# Sessions

Everything that belongs to one open playbook: its machine, conversations, variables, highlights and model, and
what was last parsed and run.
-/

namespace Playbook

structure Session where
  id : String
  machine : Machine
  contexts : Contexts
  bindings : Variables
  highlights : Highlights
  client : Option Client
  lastParse : Option Document
  lastRun : Option RunReport
  /-- Whether phase changes and highlights are observed. -/
  isWatched : Bool

namespace Session

/-- The session that nobody has opened. -/
def blank : Session := ⟨"", .new "", ⟨[], [], []⟩, [], .none, none, none, none, false⟩

instance : Inhabited Session := ⟨blank⟩

def new (settings : Settings) (client : Option Client) (id : String) : Except Failure Session := do
  return { blank with id := id, machine := .new id, contexts := ← Contexts.new settings.defaultContext, client := client }

def noted (s : Session) (e : Event) : List Event := if s.isWatched then [e] else []

/-! ### Changes

Each gives the session and what there is to observe. -/

def highlight (s : Session) (e : HighlightEvent) : Session × List Event :=
  ({ s with highlights := Highlights.after e }, s.noted (.highlight s.id e))

/-- The session with its machine moved on. -/
def move (s : Session) (m : Machine) : Session × List Event :=
  ({ s with machine := m },
    match s.machine.change? m with
    | some (before, after) => s.noted (.phase s.id before after)
    | none => [])

def record (s : Session) (messages : List Message) : Session := { s with contexts := s.contexts.extend messages }

/-- Drops every conversation and variable. -/
def clear (s : Session) : Session :=
  { s with contexts := s.contexts.clear.toOption.getD s.contexts, bindings := [] }

def resetModel (s : Session) : Session := { s with client := s.client.map (·.reset) }

end Session

/-! ### Many sessions -/

/-- Sessions by number, in the order in which they were made, and the numbers of those that are open. A session
that was closed may still have a run. -/
structure Sessions where
  made : List Session
  ids : List (String × Nat)

namespace Sessions

def empty : Sessions := ⟨[], []⟩

def number? (s : Sessions) (id : String) : Option Nat := s.ids.lookup id

def get (s : Sessions) (n : Nat) : Session := s.made.getD n default

def set (s : Sessions) (n : Nat) (session : Session) : Sessions := { s with made := s.made.set n session }

def get? (s : Sessions) (id : String) : Option Session := (s.number? id).map s.get

def openIds (s : Sessions) : List String := s.ids.map (·.1)

def require (s : Sessions) (id : String) : Except Failure Nat :=
  match s.number? id with
  | some n => .ok n
  | none => .error (.noSession id)

def add (s : Sessions) (session : Session) : Sessions × Nat :=
  (⟨s.made ++ [session], s.ids ++ [(session.id, s.made.length)]⟩, s.made.length)

def remove (s : Sessions) (id : String) : Sessions := { s with ids := s.ids.filter (·.1 ≠ id) }

end Sessions

end Playbook
