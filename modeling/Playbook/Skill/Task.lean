import Playbook.Skill.Basic
import Playbook.Text.Display
/-!
# The task skill

Sends a prompt to the model with variables filled in. With a debug flag it writes the request down instead,
long texts cut short.
-/

namespace Playbook.Task

def textLimit : Nat := 500

def shorten (s : WideString) : WideString :=
  if textLimit < s.length then s.take textLimit ++ "... [truncated]" else s

/-- The model that the arguments ask for; an empty value asks for none. -/
def model (args : Arguments) : Option Json := (args.lookup "model").filter Json.isTruthy

def messageJson (m : Message) : Json := .obj [("role", .str m.role.text), ("content", .str (shorten m.content))]

/-- The request as a value. -/
def dump (prompt : WideString) (model : Option Json) (history : List Message) : Json :=
  .obj [("prompt", .str (shorten prompt)), ("model", model.getD .null), ("context", .arr (history.map messageJson))]

def debug (prompt : WideString) (args : Arguments) : Work Product := do
  let history := (← get).history
  return .messages [.user (dump prompt (model args) history).render,
    .agent s!"Debug mode: dumped context with {history.length} messages"]

def send (prompt : WideString) (args : Arguments) : Work Product := do
  let reply ← Work.send "user" prompt ((model args).map Json.display) .standard
  if let some name := filled? (args.lookup "variable") then Work.setVariable name.strip reply.text
  return .messages [.user prompt, .assistant reply.text.display]

def work (args : Arguments) : Work Product := do
  let prompt ← ofExcept (requireText (args.lookup "prompt") "prompt")
  let prompt ← Work.substitute prompt false
  if (args.lookup "debug").isSome then debug prompt args else send prompt args

def description : String :=
  "Send a prompt to the model and return the response. Supports \x7b\x7bname\x7d\x7d variable substitution and --debug to dump the request instead."

def skill : Skill :=
  .ofWork "task" description
    [⟨"prompt", "Prompt text to send", true⟩,
      ⟨"model", "Model ID override for this request", false⟩,
      ⟨"variable", "Variable name to store the response", false⟩,
      ⟨"debug", "Dump the request as JSON instead of calling the model", false⟩] false work

end Playbook.Task
