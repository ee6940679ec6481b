import Playbook.Skill.Basic
/-!
# Registries

Skills by the name that directives use. A skill may be registered under another name than its own; registering
a name again replaces the skill and keeps its place.
-/

namespace Playbook

abbrev Registry := List (String × Skill)

namespace Registry

def names (r : Registry) : List String := r.map (·.1)

def get? (r : Registry) (name : String) : Option Skill := r.lookup name

def has (r : Registry) (name : String) : Bool := (r.get? name).isSome

/-- Registers a skill under another name, or under its own if that is empty. -/
def register (r : Registry) (s : Skill) (other : String) : Except Failure Registry :=
  let key := if other.isEmpty then s.name else other
  if key.isEmpty then .error .namelessSkill else .ok (insertValue key s r)

def unregister (r : Registry) (name : String) : Registry := r.filter (·.1 ≠ name)

def skills (r : Registry) : List Skill := r.map (·.2)

/-- The messages of a product; a skill that hands back nothing has none. -/
def messagesOf (name : String) : Product → Except Failure (List Message)
  | .messages messages => .ok messages
  | .nothing => .ok []
  | .other kind => .error (.skill (.wrongResult name kind))

/-- What a directive of the name does. -/
def dispatch (r : Registry) (name : String) (args : Arguments) : Activity (List Message) :=
  match r.get? name with
  | none => .finish (.error (.unknownSkill name r.names))
  | some s =>
    let missing := s.requiredNames.filter fun p => !args.any (·.1 = p)
    if missing.isEmpty then (s.activity args).andThen (messagesOf name)
    else .finish (.error (.parameter (.required name missing)))

end Registry

end Playbook
