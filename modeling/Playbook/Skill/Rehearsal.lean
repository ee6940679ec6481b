import Playbook.Skill.Builtin
/-!
# Rehearsal skills

Skills that do nothing useful by themselves. With them one can try out how playbooks, hosts and sessions behave:
they repeat what they are given, queue messages, fail, wait, and give commands to sessions.
-/

namespace Playbook.Rehearsal

/-- A text parameter, or the given text where it is missing. -/
def textOr (args : Arguments) (name standard : String) : WideString :=
  match args.lookup name with
  | some value => value.display
  | none => standard

/-- A parameter that names something: a session, a gate or a kind of failure. -/
def nameOr (args : Arguments) (name standard : String) : String := (textOr args name standard).plain

def isGiven (args : Arguments) (name : String) : Bool := (args.lookup name).isSome

/-- A parameter that has to be there. -/
def needed (args : Arguments) (name : String) : Except Failure String :=
  match args.lookup name with
  | some value => .ok value.display.plain
  | none => .error (.host .key (Text.quoted name))

def plain (name : String) (work : Arguments → Work Product) : Skill := .ofWork name "" [] false work

def say (text : WideString) : Product := .messages [.agent text]

/-! ### Repeating, queueing, failing -/

def record : Skill := plain "record" fun args => return say (textOr args "msg" "ok")

def fail : Skill := plain "fail" fun args => throw (.skill (.reported (textOr args "reason" "boom")))

def queue : Skill := plain "queue" fun args => do
  Work.queue (textOr args "role" "user") (textOr args "text" "queued")
  if isGiven args "fail" then throw (.skill (.reported "failed after queueing"))
  return say "result"

def none : Skill := plain "none" fun _ => return .nothing

/-- Hands back a value of another kind than messages. -/
def wrong : Skill := plain "wrong" fun args => do return .other (← ofExcept (needed args "type"))

/-- Fails with a failure that the host has a word for. -/
def raise (failure? : String → Option (WideString → Failure)) : Skill := plain "raise" fun args => do
  let kind ← ofExcept (needed args "kind")
  match failure? kind with
  | some failure => throw (failure (textOr args "text" ""))
  | Option.none => throw (.host .key (Text.quoted kind))

def needs : Skill :=
  .ofWork "needs" "" [⟨"a", "first", true⟩, ⟨"b", "second", false⟩, ⟨"c", "third", true⟩] false
    fun args => return say (textOr args "msg" "ok")

/-- Says the reply, or without one what it is given. -/
def speaker (name description : String) (parameters : List Parameter) (reply : String) : Skill :=
  .ofWork name description parameters false
    fun args => return say (if reply.isEmpty then textOr args "msg" "ok" else reply)

/-! ### Looking around -/

/-- Repeats the next block, which is not recorded. -/
def consume : Skill :=
  .ofWork "consume" "" [] true fun _ => do
    let shown := match (← get).nextBlock with
      | some block => block.content
      | Option.none => "nothing"
    return .messages [.assistant ("ran: " ++ shown)]

/-- Tells where the step stands and what it sees. -/
def probe : Skill := plain "probe" fun args => do
  let api ← get
  let name (b : Option Block) : String := (b.map (·.name)).getD "-"
  let text ← Work.substitute (textOr args "text" "") (isGiven args "preserve")
  let parts : List WideString := [toString api.index, toString api.blocks.length, name api.currentBlock, name api.nextBlock,
    api.contexts.selected, toString api.history.length, text]
  return say (WideString.ofString "|" |>.intercalate parts)

/-! ### Waiting and commanding -/

def gate : Skill where
  name := "gate"
  description := ""
  parameters := []
  takesNextBlock := false
  activity args := .wait (nameOr args "name" "") (.finish (.ok (say "gate passed")))

/-- The command with the given name. -/
def command (args : Arguments) : Except Failure (String × Command) := do
  let verb ← needed args "do"
  let id := nameOr args "id" "a"
  match verb with
  | "pause" => return (verb, .pause id)
  | "resume" => return (verb, .resume id)
  | "stop" => return (verb, .stop id)
  | "reset" => return (verb, .reset id (isGiven args "clear"))
  | "close" => return (verb, .close id)
  | "state" => return (verb, .phase id)
  | "run" => return (verb, .run id (← needed args "text"))
  | _ => throw (.host .attribute s!"no such command: {verb}")

def answerText : Answer → String
  | .done => "done"
  | .flag b => if b then "true" else "false"
  | .phase p => p.text

def ctl : Skill where
  name := "ctl"
  description := ""
  parameters := []
  takesNextBlock := false
  activity args :=
    match command args with
    | .error f => .finish (.error f)
    | .ok (verb, c) => .command c fun answer => .finish (answer.map fun a => say s!"{verb}: {answerText a}")

def all (failure? : String → Option (WideString → Failure)) : List Skill :=
  [record, fail, queue, consume, none, wrong, raise failure?, probe, needs, gate, ctl]

/-- The built-in skills and some rehearsal skills, registered in the order in which they are named. -/
def registry (limit : Option TimeLimit) (failure? : String → Option (WideString → Failure)) (names : List String) :
    Registry :=
  names.foldl (fun r name =>
    match (all failure?).find? (·.name == name) with
    | some s => insertValue name s r
    | Option.none => r) (Builtin.registry limit)

end Playbook.Rehearsal
