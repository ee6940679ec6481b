/-!
# Phases

What a session is doing. It is active while it runs or is paused.
-/

namespace Playbook

inductive Phase where
  | idle
  | running
  | paused
  | stopped
  | failed
deriving Repr, DecidableEq

namespace Phase

def text : Phase → String
  | idle => "idle"
  | running => "running"
  | paused => "paused"
  | stopped => "stopped"
  | failed => "error"

def isActive : Phase → Bool
  | running | paused => true
  | _ => false

end Phase

end Playbook
