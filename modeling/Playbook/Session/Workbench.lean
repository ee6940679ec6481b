import Playbook.Session.Run
/-!
# The workbench

Sessions, the runs in progress on them, and the host that they share. A run is a task of its own or was started
by a step of another run, so a task is a stack of runs. Only one task moves at a time; it moves until it waits
at a gate, waits at a boundary of a paused session, or ends, and tasks that may go on take turns in the order in
which they were let go.
-/

namespace Playbook

/-! ### Tasks -/

/-- Where a run stands. -/
inductive Point where
  | boundary
  /-- In a step, with the messages queued so far and what is left to do. -/
  | working (pending : List Message) (activity : Activity (List Message))
  /-- In a step that waits for a run that it started. -/
  | awaiting (pending : List Message) (next : Except Failure Answer → Activity (List Message))

structure Frame where
  run : Run
  point : Point

inductive Outcome where
  | report (r : RunReport)
  | failure (f : Failure)
  | cancelled

def Outcome.ofResult : Except Failure RunReport → Outcome
  | .ok r => .report r
  | .error f => .failure f

inductive TaskState where
  /-- May go on; the innermost run comes first. -/
  | ready (frames : List Frame)
  | atGate (gate : String) (frames : List Frame)
  | paused (session : Nat) (frames : List Frame)
  | ended (outcome : Outcome)

namespace TaskState

def frames : TaskState → List Frame
  | ready frames | atGate _ frames | paused _ frames => frames
  | ended _ => []

def isOver : TaskState → Bool
  | ended _ => true
  | _ => false

end TaskState

structure Workbench where
  registry : Registry
  settings : Settings
  /-- The model client that each new session gets. -/
  client : Option Client
  host : Host
  sessions : Sessions
  tasks : List TaskState
  /-- The tasks that wait, in the order in which they began to. -/
  waiting : List Nat
  /-- The tasks that may go on, in the order of their turns. -/
  turns : List Nat
  /-- The tasks that rest until no other task can go on. -/
  resting : List Nat
  /-- How many steps began to wait at each gate since it was opened last. -/
  arrivals : List (String × Nat)
  log : List Event

namespace Workbench

def new (registry : Registry) (settings : Settings) (client : Option Client) (host : Host) : Workbench :=
  ⟨registry, settings, client, host, .empty, [], [], [], [], [], []⟩

def task (w : Workbench) (t : Nat) : TaskState := w.tasks.getD t (.ended .cancelled)

def setTask (w : Workbench) (t : Nat) (s : TaskState) : Workbench := { w with tasks := w.tasks.set t s }

def note (w : Workbench) (events : List Event) : Workbench := { w with log := w.log ++ events }

/-! ### Waking tasks -/

/-- Lets those waiting tasks go on that are waiting for `isMet`. -/
def wake (w : Workbench) (isMet : TaskState → Bool) : Workbench :=
  let woken := w.waiting.filter fun t => isMet (w.task t)
  { w with
    tasks := w.tasks.map fun s => if isMet s then .ready s.frames else s
    waiting := w.waiting.filter fun t => !isMet (w.task t)
    turns := w.turns ++ woken }

def isPausedIn (n : Nat) : TaskState → Bool
  | .paused m _ => m == n
  | _ => false

def isAtGate (gate : String) : TaskState → Bool
  | .atGate g _ => g == gate
  | _ => false

/-- Opens a gate for those who wait there and tells how many came since it was opened last. -/
def openGate (w : Workbench) (gate : String) : Workbench × Nat :=
  let w' := w.wake (isAtGate gate)
  ({ w' with arrivals := w.arrivals.filter (·.1 ≠ gate) }, (w.arrivals.lookup gate).getD 0)

/-! ### Changing sessions -/

def session (w : Workbench) (n : Nat) : Session := w.sessions.get n

def setSession (w : Workbench) (n : Nat) (changed : Session × List Event) : Workbench :=
  ({ w with sessions := w.sessions.set n changed.1 }).note changed.2

def highlight (w : Workbench) (n : Nat) (e : HighlightEvent) : Workbench := w.setSession n ((w.session n).highlight e)

/-- The machine of a session moved on, which may wake a run that waits at a boundary. -/
def moved (w : Workbench) (n : Nat) (m : Machine) : Workbench :=
  let moved := w.setSession n ((w.session n).move m)
  if (w.session n).machine.opens m then moved.wake (isPausedIn n) else moved

def act (w : Workbench) (n : Nat) (a : Action) : Except Failure (Workbench × Option Bool) :=
  match (w.session n).machine.act a with
  | .error refusal => .error (.refused refusal)
  | .ok (m, reply) => .ok (w.moved n m, reply)

/-- Moves the machine if it can be moved. -/
def tryAct (w : Workbench) (n : Nat) (a : Action) : Workbench :=
  match w.act n a with
  | .ok (w, _) => w
  | .error _ => w

/-! ### Control -/

/-- The open session of the id, made if there is none. -/
def openSession (w : Workbench) (id : String) : Except Failure (Workbench × Nat) :=
  match w.sessions.number? id with
  | some n => .ok (w, n)
  | none => do
    let s ← Session.new w.settings w.client id
    let (sessions, n) := w.sessions.add s
    return ({ w with sessions := sessions }, n)

/-- From now on the session is observed. -/
def watch (w : Workbench) (n : Nat) : Workbench :=
  w.setSession n ({ w.session n with isWatched := true }, [])

/-- Closes a session; its run stops at the next boundary. -/
def closeSession (w : Workbench) (id : String) : Workbench :=
  match w.sessions.number? id with
  | none => w
  | some n => (({ w with sessions := w.sessions.remove id }).tryAct n .stop).highlight n .clear

def parse (w : Workbench) (id text : String) : Except Failure (Workbench × Document) := do
  let (w, n) ← w.openSession id
  let d := Document.parse text
  return (w.setSession n ({ w.session n with lastParse := some d }, []), d)

/-- Makes the session idle again. -/
def reset (w : Workbench) (id : String) (clear : Bool) : Except Failure Workbench := do
  let n ← w.sessions.require id
  let (w, _) ← w.act n .reset
  let w := w.highlight n .clear
  return if clear then w.setSession n ((w.session n).clear, []) else w

def control (w : Workbench) (id : String) (a : Action) : Except Failure (Workbench × Option Bool) := do
  w.act (← w.sessions.require id) a

def phase (w : Workbench) (id : String) : Except Failure Phase := do
  return (w.session (← w.sessions.require id)).machine.phase

/-! ### Starting runs -/

/-- What is to be run and for whom. -/
structure Order where
  id : String
  text : String
  observer : Observer

/-- Starts on the session, which has to be idle; every run starts with the default model. -/
def start (w : Workbench) (n : Nat) (run : Run) : Except Failure (Workbench × Run) := do
  let (w, _) ← w.act n .start
  return (w.setSession n ((w.session n).resetModel, []), run)

def requireExecutable (d : Document) : Except Failure Unit :=
  if d.isExecutable then .ok () else .error (.notExecutable d.criticalProblems)

def workspace (w : Workbench) : Path := w.settings.workspace.getD w.host.cwdPath

/-- Parses the text and starts a run whose report the session remembers. While another run has the session
nothing changes; else the session remembers the parse even if the run is refused. -/
def enter (w : Workbench) (o : Order) : Workbench × Except Failure Run :=
  match w.openSession o.id with
  | .error e => (w, .error e)
  | .ok (w, n) =>
    let m := (w.session n).machine
    if m.isOwned then (w, .error (.refused (.busy m.phase o.id)))
    else
      let d := Document.parse o.text
      let w := w.setSession n ({ w.session n with lastParse := some d }, [])
      let started := do
        requireExecutable d
        w.start n ⟨n, d.blocks, 0, [], w.workspace, true, o.observer, true, false⟩
      match started with
      | .ok (w, run) => (w, .ok run)
      | .error e => (w, .error e)

/-- Starts a run apart from the session's own: nothing is remembered, and nobody answers questions. -/
def enterApart (w : Workbench) (o : Order) (root : Path) (blocksOnly rests : Bool) : Workbench × Except Failure Run :=
  match w.openSession o.id with
  | .error e => (w, .error e)
  | .ok (w, n) =>
    let d := Document.parse o.text
    let started := do
      if !blocksOnly then requireExecutable d
      w.start n ⟨n, d.blocks, 0, [], root, false, o.observer, false, rests⟩
    match started with
    | .ok (w, run) => (w, .ok run)
    | .error e => (w, .error e)

/-! ### Ends of runs -/

/-- What the step that started a run makes of its outcome. -/
def resume (next : Except Failure Answer → Activity (List Message)) (result : Except Failure RunReport) :
    Activity (List Message) :=
  next (result.map fun r => .phase r.phase)

/-- The runs that a task goes on with when the run inside them is over. -/
def left (outer : List Frame) (result : Except Failure RunReport) : List Frame :=
  match outer with
  | ⟨run, .awaiting pending next⟩ :: outer => ⟨run, .working pending (resume next result)⟩ :: outer
  | _ => []

/-- What the task does then. -/
def leftTask (outer : List Frame) (result : Except Failure RunReport) : TaskState :=
  match left outer result with
  | [] => .ended (.ofResult result)
  | frames => .ready frames

/-- The innermost run of the task is over. -/
def leave (w : Workbench) (t : Nat) (run : Run) (outer : List Frame) (result : Except Failure RunReport) : Workbench :=
  let w := w.setSession run.session (run.remember result (w.session run.session), [])
  w.setTask t (leftTask outer result)

def reportNow (w : Workbench) (run : Run) (ending : Ending) : RunReport :=
  run.report ending (w.session run.session).machine.phase

/-- Leaves a stopped session. -/
def leaveStopped (w : Workbench) (t : Nat) (run : Run) (outer : List Frame) : Workbench :=
  let w := (w.highlight run.session .clear).tryAct run.session .completeStop
  w.leave t run outer (.ok (w.reportNow run .stopped))

/-- Tells the observer of an event; a failing callback ends the run where it stands. -/
def tell (w : Workbench) (t : Nat) (run : Run) (outer : List Frame) (c : Callback) (e : Event)
    (go : Workbench → Workbench) : Workbench :=
  let w := w.note (run.observer.hears e)
  match run.observer.failure? c with
  | some f => w.leave t run outer (.error f)
  | none => go w

def complete (w : Workbench) (t : Nat) (run : Run) (outer : List Frame) : Workbench :=
  match (w.highlight run.session .clear).act run.session .finish with
  | .error f => (w.highlight run.session .clear).leave t run outer (.error f)
  | .ok (w, _) => w.tell t run outer .complete .complete fun w => w.leave t run outer (.ok (w.reportNow run .completed))

/-! ### Steps of runs -/

/-- Goes on at the boundary after the block at `next`. -/
def goOn (t : Nat) (run : Run) (outer : List Frame) (w : Workbench) : Workbench :=
  w.setTask t (.ready (⟨run.advance, .boundary⟩ :: outer))

/-- Goes on after a step, perhaps after a rest. -/
def goOnAfterStep (t : Nat) (run : Run) (outer : List Frame) (w : Workbench) : Workbench :=
  let w := goOn t run outer w
  if run.rests then { w with turns := w.turns.filter (· ≠ t), resting := w.resting ++ [t] } else w

def stay (w : Workbench) (t : Nat) (run : Run) (outer : List Frame) (pending : List Message)
    (activity : Activity (List Message)) : Workbench :=
  w.setTask t (.ready (⟨run, .working pending activity⟩ :: outer))

/-- A step came to an end: what it queued is recorded in any case, its messages only if it succeeded. -/
def endStep (w : Workbench) (t : Nat) (run : Run) (outer : List Frame) (block : Block) (pending : List Message)
    (result : Except Failure (List Message)) : Workbench :=
  match result with
  | .ok messages =>
    let messages := pending ++ messages
    let w := w.setSession run.session ((w.session run.session).record messages, [])
    let run := run.addStep (run.stepReport block messages none)
    w.tell t run outer .progress (.progress run.next block.name (some messages)) (goOnAfterStep t run outer)
  | .error f =>
    let w := w.setSession run.session ((w.session run.session).record pending, [])
    let run := run.addStep (run.stepReport block pending (some f))
    match (w.highlight run.session (.failed block.line)).act run.session .fail with
    | .error f => (w.highlight run.session (.failed block.line)).leave t run outer (.error f)
    | .ok (w, _) =>
      w.tell t run outer .error (.error run.next block.name f) fun w =>
        w.leave t run outer (.ok (w.reportNow run (.failed block.line f)))

/-- Carries out a command that is no run. -/
def carryOut (w : Workbench) : Command → Except Failure (Workbench × Answer)
  | .pause id => do return ((← w.control id .pause).1, .done)
  | .resume id => do return ((← w.control id .resume).1, .done)
  | .stop id => do
    let (w, reply) ← w.control id .stop
    return (w, .flag (reply.getD false))
  | .reset id clear => do return (← w.reset id clear, .done)
  | .close id => .ok (w.closeSession id, .done)
  | .phase id => do return (w, .phase (← w.phase id))
  | .run id _ => .error (.noSession id)

def arrive (w : Workbench) (gate : String) : Workbench :=
  { w with arrivals := insertValue gate ((w.arrivals.lookup gate).getD 0 + 1) w.arrivals }

/-- The task whose turn it is begins to wait. -/
def pauseTurn (w : Workbench) (t : Nat) (s : TaskState) : Workbench :=
  { w.setTask t s with turns := w.turns.filter (· ≠ t), waiting := w.waiting ++ [t] }

def stepBoundary (w : Workbench) (t : Nat) (run : Run) (outer : List Frame) : Workbench :=
  match run.boundary (w.session run.session).machine with
  | .wait => w.pauseTurn t (.paused run.session (⟨run, .boundary⟩ :: outer))
  | .leave => w.leaveStopped t run outer
  | .finish => w.complete t run outer
  | .plain block =>
    let messages := plainMessages w.registry run.blocks run.next block
    let w := w.setSession run.session ((w.session run.session).record messages, [])
    w.tell t run outer .progress (.progress run.next block.name none) (goOn t run outer)
  | .step block =>
    (w.highlight run.session (.current block.line)).stay t run outer []
      (w.registry.dispatch block.name block.arguments)

def stepActivity (w : Workbench) (t : Nat) (run : Run) (outer : List Frame) (pending : List Message)
    (activity : Activity (List Message)) : Workbench :=
  match activity with
  | .finish result =>
    match run.blocks[run.next]? with
    | some block => w.endStep t run outer block pending result
    | none => w.leave t run outer (.error (.refused (.cannotFinish (w.session run.session).machine.phase)))
  | .work piece next =>
    let (result, api) := piece.run (run.api (w.session run.session) w.host pending)
    let w := w.setSession run.session (Run.sessionAfter (w.session run.session) api, [])
    ({ w with host := run.hostAfter w.host api }).stay t run outer api.pending (next result)
  | .wait gate next => (w.arrive gate).pauseTurn t (.atGate gate (⟨run, .working pending next⟩ :: outer))
  | .command (.run id text) next =>
    match w.enter ⟨id, text, .nobody⟩ with
    | (w, .ok inner) => w.setTask t (.ready (⟨inner, .boundary⟩ :: ⟨run, .awaiting pending next⟩ :: outer))
    | (w, .error f) => w.stay t run outer pending (next (.error f))
  | .command c next =>
    match w.carryOut c with
    | .ok (w, answer) => w.stay t run outer pending (next (.ok answer))
    | .error f => w.stay t run outer pending (next (.error f))

/-- One step of a task. -/
def step (w : Workbench) (t : Nat) : Workbench :=
  match w.task t with
  | .ready (⟨run, .boundary⟩ :: outer) => w.stepBoundary t run outer
  | .ready (⟨run, .working pending activity⟩ :: outer) => w.stepActivity t run outer pending activity
  | .ready _ | .atGate .. | .paused .. | .ended _ => { w with turns := w.turns.filter (· ≠ t) }

/-! ### Turns -/

/-- Steps until no task can go on; the fuel bounds their number. -/
def settle : (fuel : Nat) → Workbench → Workbench
  | 0, w => w
  | fuel + 1, w =>
    match w.turns, w.resting with
    | t :: _, _ => settle fuel (w.step t)
    | [], t :: resting => settle fuel { w with turns := [t], resting := resting }
    | [], [] => w

/-- More steps than any playbook takes. -/
def patience : Nat := 10000000

def run (w : Workbench) : Workbench := w.settle patience

/-- A new task for a run that was started, or for the reason why it was not. -/
def addTask (w : Workbench) (entered : Except Failure Run) : Workbench × Nat :=
  let t := w.tasks.length
  match entered with
  | .ok run => ({ w with tasks := w.tasks ++ [.ready [⟨run, .boundary⟩]], turns := w.turns ++ [t] }, t)
  | .error f => ({ w with tasks := w.tasks ++ [.ended (.failure f)] }, t)

/-! ### Cancelling -/

/-- Stops the run of the session if it has not been stopped yet. -/
def halt (w : Workbench) (n : Nat) : Workbench := if (w.session n).machine.isActive then w.tryAct n .stop else w

/-- A cancelled run leaves its session as a stopped one would. -/
def abandon (w : Workbench) (f : Frame) : Workbench :=
  let n := f.run.session
  let w := (w.highlight n .clear).halt n
  if (w.session n).machine.isStopRequested then w.tryAct n .completeStop else w

/-- Cancels a task that waits, all its runs from the innermost one on; tells whether there was anything to cancel. -/
def cancel (w : Workbench) (t : Nat) : Workbench × Bool :=
  let s := w.task t
  if s.isOver then (w, false)
  else
    let others (ts : List Nat) : List Nat := ts.filter (· ≠ t)
    let w := { w with waiting := others w.waiting, turns := others w.turns, resting := others w.resting }
    ((s.frames.foldl abandon (w.setTask t (.ended .cancelled))), true)

/-! ### Looking at it -/

def forget (w : Workbench) : Workbench := { w with log := [] }

end Workbench

end Playbook
