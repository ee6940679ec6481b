import Mathlib.Data.List.DropRight
import Playbook.Proofs.Model.Attempts
/-!
# Dealings with a client

A client is asked to select models, to go back to its default one and to send requests, in any order, and its provider
answers each time as it likes. Which model is selected can be read off the dealings alone: it is the one that was accepted
last since the client went back to its default. A request goes out with this model, or with one that it names itself, and
with all of the conversation before it; or it is turned down, and nothing goes out.
-/

namespace Playbook

/-! ### Dealings -/

/-- What providers answer during one call, the last answer repeating. A client hears only its own provider. -/
structure ProviderAnswers where
  service : ServiceOutcome
  serviceScript : List ServiceOutcome
  server : Http.Outcome
  serverScript : List Http.Outcome

def Backend.hearing (a : ProviderAnswers) : Backend → Backend
  | .echo known => .echo known
  | .service s loop limit _ _ => .service s loop limit a.service a.serviceScript
  | .server s loop limit _ _ => .server s loop limit a.server a.serverScript

/-- What a client can be asked. -/
inductive Errand where
  | select (model : WideString)
  | reset
  | send (r : Request)

structure Dealing where
  errand : Errand
  answers : ProviderAnswers

/-- What became of a dealing. -/
inductive DealingNote where
  | accepted (model : WideString)
  | rejected (model : WideString) (f : Failure)
  | reset
  | sent (result : Except Failure Reply)

namespace DealingNote

/-- The model that is selected then. -/
def leaves (default selected : Option WideString) : DealingNote → Option WideString
  | accepted model => some model
  | reset => default
  | rejected .. | sent _ => selected

end DealingNote

namespace Client

/-- The client with a provider that answers so. -/
def hearing (c : Client) (a : ProviderAnswers) : Client := { c with backend := c.backend.hearing a }

/-- A selection that is rejected leaves the client as it is. -/
def deal (c : Client) (d : Dealing) : Client :=
  let c := c.hearing d.answers
  match d.errand with
  | .select model => (c.select model).toOption.getD c
  | .reset => c.reset
  | .send r => (c.send r).1

def note (c : Client) (d : Dealing) : DealingNote :=
  let c := c.hearing d.answers
  match d.errand with
  | .select model =>
    match c.select model with
    | .ok _ => .accepted model
    | .error f => .rejected model f
  | .reset => .reset
  | .send r => .sent (c.send r).2

def after (c : Client) (ds : List Dealing) : Client := ds.foldl deal c

theorem after_concat (c : Client) (ds : List Dealing) (d : Dealing) : c.after (ds ++ [d]) = (c.after ds).deal d :=
  List.foldl_concat deal c d ds

end Client

/-! ### What goes out -/

/-- A turn as a model is told of it: what the playbook said is said by the user. -/
def told (m : Message) : Message := ⟨if m.role = .agent then .user else m.role, m.content⟩

/-- Fields that ask the model to go on with the conversation and the new message. -/
structure Asks (r : Request) (role : Role) (model : WideString) (fields : Json.Fields) : Prop where
  model : (Json.obj fields).field? "model" = some (.str model)
  messages : (Json.obj fields).field? "messages" =
    some (.arr ((r.history.map told ++ [Message.mk role r.content]).map Service.messageJson))

/-- A server does not take a request if it is closed, or if there is no such address, or if its body cannot be written
down. -/
theorem LocalServer.request_cases (s : LocalServer) (method path : String) (body : Option Json) :
    (∃ fault text, s.request method path body = .error (.host fault text)) ∨
      ∃ request, s.request method path body = .ok request ∧ request.body = body := by
  unfold request
  cases s.base.append path.toList with
  | error fault => exact .inl ⟨_, _, rfl⟩
  | ok url =>
      cases body.bind s.library.unsendable? with
      | some problem => exact .inl ⟨_, _, rfl⟩
      | none =>
          cases s.isOpen with
          | true => exact .inr ⟨_, rfl, rfl⟩
          | false => exact .inl ⟨_, _, rfl⟩

namespace Client

variable {c : Client} {r : Request} {role : Role} {model : WideString}

end Client

end Playbook
