import Playbook.Skill.Api
/-!
# Skills

A skill has a name, the parameters that it declares, and what it does when a directive of its name is reached.
What it does is a tree of pieces of work; between two pieces it may wait at a gate or give a command to the
sessions of the host.
-/

namespace Playbook

/-- Parameters as the directive gives them. Callers of their own may pass other values than texts. -/
abbrev Arguments := List (String × Json)

def Block.arguments (b : Block) : Arguments := b.params.map fun (name, value) => (name, .str value)

structure Parameter where
  name : String
  description : String
  isRequired : Bool
deriving Repr, DecidableEq

/-- What a skill hands back; only messages, or nothing at all, are of use. -/
inductive Product where
  | messages (messages : List Message)
  | nothing
  | other (kind : String)
deriving Repr, DecidableEq

/-! ### Commands -/

/-- What a skill may ask of the sessions. -/
inductive Command where
  | pause (session : String)
  | resume (session : String)
  | stop (session : String)
  | reset (session : String) (clear : Bool)
  | close (session : String)
  | phase (session : String)
  | run (session : String) (text : String)
deriving Repr, DecidableEq

def Command.session : Command → String
  | pause id | resume id | stop id | reset id _ | close id | phase id | run id _ => id

/-- The answer to a command that was carried out. -/
inductive Answer where
  | done
  | flag (b : Bool)
  | phase (p : Phase)
deriving Repr, DecidableEq

/-! ### Activities -/

inductive Activity (α : Type) where
  | finish (result : Except Failure α)
  /-- What comes next depends on what the work brought. -/
  | work (piece : Work Product) (next : Except Failure Product → Activity α)
  | wait (gate : String) (next : Activity α)
  /-- What comes next learns of the answer or of the refusal. -/
  | command (command : Command) (next : Except Failure Answer → Activity α)

namespace Activity

/-- Work done in one go. -/
def ofWork (w : Work Product) : Activity Product := .work w .finish

/-- Another look at the result. -/
def andThen {α β : Type} (f : α → Except Failure β) : Activity α → Activity β
  | finish result => .finish (result.bind f)
  | work piece next => .work piece fun result => (next result).andThen f
  | wait gate next => .wait gate (next.andThen f)
  | command c next => .command c fun answer => (next answer).andThen f

/-- The activity without anything else going on: gates are open, and there are no sessions. -/
def runAlone {α : Type} : Activity α → Api → Api × Except Failure α
  | finish result, api => (api, result)
  | work piece next, api => (next (piece.run api).1).runAlone (piece.run api).2
  | wait _ next, api => next.runAlone api
  | command c next, api => (next (.error (.noSession c.session))).runAlone api

end Activity

structure Skill where
  name : String
  description : String
  parameters : List Parameter
  takesNextBlock : Bool
  activity : Arguments → Activity Product

namespace Skill

def requiredNames (s : Skill) : List String := (s.parameters.filter (·.isRequired)).map (·.name)

/-- A skill that does all its work in one go. -/
def ofWork (name description : String) (parameters : List Parameter) (takesNextBlock : Bool)
    (work : Arguments → Work Product) : Skill :=
  ⟨name, description, parameters, takesNextBlock, fun args => .ofWork (work args)⟩

end Skill

/-! ### Reading arguments -/

/-- A text with something in it, as it is given. -/
def filled? : Option Json → Option WideString
  | some (.str s) => if s.isBlank then none else some s
  | _ => none

def requireText (value : Option Json) (name : String) : Except Failure WideString :=
  match filled? value with
  | some s => .ok s
  | none => .error (.parameter (.blank name))

end Playbook
