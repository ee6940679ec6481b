import Playbook.Model.Request
/-!
# The echo model

Answers every request with its own content, without a network. It knows every model, or only those of a list.
-/

namespace Playbook.Echo

def name : String := "echo"

def accept (known : Option (List WideString)) (model : WideString) : Except Failure Unit :=
  match known with
  | some models => if models.contains model then .ok () else .error (.selection (.unknown model))
  | none => .ok ()

def reply (model content : WideString) : Reply := ⟨.str ("[" ++ model ++ "] " ++ content), .str model, []⟩

end Playbook.Echo
