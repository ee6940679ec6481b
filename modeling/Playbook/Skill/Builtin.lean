import Playbook.Skill.Execute
import Playbook.Skill.Files
import Playbook.Skill.Registry
import Playbook.Skill.Task
/-!
# The built-in skills

The skills that every playbook has, in the order in which they are listed.
-/

namespace Playbook.Builtin

/-! ### Selecting a conversation -/

/-- The name may come as a flag or without one. -/
def contextName (args : Arguments) : Except Failure WideString :=
  match (args.lookup "name").filter (!· matches .null), (args.lookup "").filter (!· matches .null) with
  | some value, _ | none, some value =>
    match filled? (some value) with
    | some name => .ok name.strip
    | none => .error (.parameter .blankContextName)
  | none, none => .error (.parameter .noContextName)

def selectContext (args : Arguments) : Work Product := do
  let name ← ofExcept (contextName args)
  Work.selectContext name
  return .messages [.agent ("Context set to: " ++ name)]

def context : Skill :=
  .ofWork "context" "Select the agent context that receives subsequent messages."
    [⟨"name", "Context name to select", false⟩] false selectContext

/-! ### Selecting a model -/

def selectModel (args : Arguments) : Work Product := do
  let model := (← ofExcept (requireText (args.lookup "id") "model id")).strip
  Work.selectModel model
  return .messages [.agent ("Model set to: " ++ model)]

def model : Skill :=
  .ofWork "model" "Set the active model for subsequent requests."
    [⟨"id", "Model ID to select (e.g., gpt-4.1)", true⟩] false selectModel

/-! ### Asking the user -/

def askUser (args : Arguments) : Work Product := do
  let prompt ← ofExcept (requireText (args.lookup "prompt") "prompt")
  let name ← ofExcept (requireText (args.lookup "variable") "variable name")
  let answer ← Work.ask prompt
  Work.setVariable name.strip (.str answer)
  return .messages []

def input : Skill :=
  .ofWork "input" "Prompt the user for input and store it in a variable."
    [⟨"prompt", "Prompt text shown to the user", true⟩,
      ⟨"variable", "Variable name to store the input", true⟩] false askUser

/-! ### All of them -/

def skills (limit : Option TimeLimit) : List Skill := [context, model, Task.skill, Execute.skill limit, Files.skill, input]

def registry (limit : Option TimeLimit) : Registry := (skills limit).map fun s => (s.name, s)

end Playbook.Builtin
