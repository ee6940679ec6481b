import Playbook.Model.Echo
import Playbook.Model.LocalServer
/-!
# Model clients

A client is a choice of model and a backend that answers. The backends over a network hold what their server
answers to each call, the last answer repeating.
-/

namespace Playbook

inductive Backend where
  | echo (known : Option (List WideString))
  | service (service : Service) (loop : Retry.Loop ServiceOutcome) (limit : Nat) (outcome : ServiceOutcome)
    (script : List ServiceOutcome)
  | server (server : LocalServer) (loop : Retry.Loop Http.Outcome) (limit : Nat) (outcome : Http.Outcome)
    (script : List Http.Outcome)

structure Client where
  choice : ModelChoice
  backend : Backend
  /-- The requests that were answered, first one first. -/
  requests : List Request

namespace Client

def new (default : Option WideString) (backend : Backend) : Client := ⟨.new default, backend, []⟩

def name (c : Client) : String :=
  match c.backend with
  | .echo _ => Echo.name
  | .service s .. => s.name
  | .server .. => LocalServer.name

def reset (c : Client) : Client := { c with choice := c.choice.reset }

def select (c : Client) (model : WideString) : Except Failure Client :=
  match c.backend with
  | .echo known => (Echo.accept known model).map fun _ => { c with choice := c.choice.select model }
  | .service s _ _ outcome _ => (s.select c.choice model outcome).result.map fun choice => { c with choice := choice }
  | .server s _ _ outcome _ => (s.select c.choice model outcome).result.map fun choice => { c with choice := choice }

def answer (c : Client) (r : Request) : Except Failure Reply :=
  match c.backend with
  | .echo _ => do
    let _ ← Request.checkRole r.role
    return Echo.reply (← c.choice.resolve Echo.name r.options) r.content
  | .service s loop limit outcome script => (s.send loop c.choice limit r outcome script).result
  | .server s loop limit outcome script => (s.send loop c.choice limit r outcome script).result

def send (c : Client) (r : Request) : Client × Except Failure Reply :=
  match c.answer r with
  | .ok reply => ({ c with requests := c.requests ++ [r] }, .ok reply)
  | .error e => (c, .error e)

end Client

end Playbook
