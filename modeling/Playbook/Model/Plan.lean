import Playbook.Model.Client
/-!
# Choosing a client

Which client the settings ask for. A provider or a model that is named goes before the settings; an empty name
counts as none.
-/

namespace Playbook

/-- The libraries that clients over a network are built on. -/
structure Network where
  http : Http.Library
  services : Retry.Loop ServiceOutcome
  servers : Retry.Loop Http.Outcome

structure ClientPlan where
  provider : Provider
  model : String
  timeout : Float
  retries : Nat
  /-- The server, where the provider is a local one. -/
  server : Option LocalServer
  network : Network

namespace ClientPlan

def named (name : Option String) : Option String := name.filter (· ≠ "")

def ofSettings (network : Network) (s : Settings) (provider model : Option String) : Except Failure ClientPlan := do
  let p ← match named provider with
    | none => pure s.provider
    | some name => (Provider.ofText? name).elim (throw (.config (.unknownProvider name))) pure
  let server ← if p = .local then some <$> LocalServer.new network.http s.localUrl LocalServer.defaultKey else pure none
  return ⟨p, (named model).getD s.defaultModel, s.requestTimeout, s.maxRetries, server, network⟩

/-- What a network that cannot be reached says. -/
def unreachable : String := "Connection error."

/-- The client; where a network is needed, none is there. -/
def client (p : ClientPlan) : Client :=
  let offline (service : Service) : Backend :=
    .service service p.network.services p.retries (.fault .connection unreachable) []
  .new (some (p.model : WideString)) (match p.server, p.provider with
    | some server, _ => .server server p.network.servers p.retries (.unreachable unreachable) []
    | none, .anthropic => offline .anthropic
    | none, .openai => offline .openai
    | none, _ => .echo none)

end ClientPlan

end Playbook
