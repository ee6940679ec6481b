import Playbook.Execution.Phase
/-!
# The execution machine

The phase of one session, whether a run owns the session, and whether a run that waits at a step boundary
may go on. Pause and stop are requests: the phase changes at once, a run notices at its next boundary. A run
keeps the session until it has left, also after a stop.
-/

namespace Playbook

/-- Why the machine turns an action down. -/
inductive Refusal where
  | busy (phase : Phase) (session : String)
  | stillStopping (session : String)
  | cannotStart (phase : Phase)
  | cannotPause (phase : Phase)
  | cannotResume (phase : Phase)
  | cannotCompleteStop (phase : Phase)
  | cannotFinish (phase : Phase)
  | cannotFail (phase : Phase)
  | resetWhileActive
deriving Repr, DecidableEq

namespace Refusal

/-- Whether the refusal is about another run that has the session. -/
def isConflict : Refusal → Bool
  | busy .. | stillStopping _ => true
  | _ => false

def message : Refusal → String
  | busy phase session => s!"Playbook is already {phase.text} for session {session}"
  | stillStopping session => s!"Playbook for session {session} is still stopping; reset after it ends"
  | cannotStart phase => s!"Cannot start from state '{phase.text}'; reset the session first"
  | cannotPause phase => s!"Cannot pause from state '{phase.text}'"
  | cannotResume phase => s!"Cannot resume from state '{phase.text}'"
  | cannotCompleteStop phase => s!"Cannot complete stop from state '{phase.text}'"
  | cannotFinish phase => s!"Cannot finish from state '{phase.text}'"
  | cannotFail phase => s!"Cannot fail from state '{phase.text}'"
  | resetWhileActive => "Cannot reset while a playbook is running; stop it first"

end Refusal

structure Machine where
  session : String
  phase : Phase
  isOwned : Bool
  mayPass : Bool
deriving Repr, DecidableEq

namespace Machine

def new (session : String) : Machine := ⟨session, .idle, false, true⟩

def isActive (m : Machine) : Bool := m.phase.isActive

def isStopRequested (m : Machine) : Bool := m.phase == .stopped

def start (m : Machine) : Except Refusal Machine :=
  if m.isActive || m.isOwned then .error (.busy m.phase m.session)
  else if m.phase ≠ .idle then .error (.cannotStart m.phase)
  else .ok { m with phase := .running, isOwned := true, mayPass := true }

/-- A second pause changes nothing. -/
def pause (m : Machine) : Except Refusal Machine :=
  match m.phase with
  | .paused => .ok m
  | .running => .ok { m with phase := .paused, mayPass := false }
  | phase => .error (.cannotPause phase)

def resume (m : Machine) : Except Refusal Machine :=
  match m.phase with
  | .paused => .ok { m with phase := .running, mayPass := true }
  | phase => .error (.cannotResume phase)

/-- Also tells whether there was anything to stop. -/
def stop (m : Machine) : Machine × Bool :=
  if m.isActive then ({ m with phase := .stopped, mayPass := true }, true) else (m, false)

/-- The stopped run has left. -/
def completeStop (m : Machine) : Except Refusal Machine :=
  match m.phase with
  | .stopped => .ok { m with phase := .idle, isOwned := false }
  | phase => .error (.cannotCompleteStop phase)

def finish (m : Machine) : Except Refusal Machine :=
  if m.isActive then .ok { m with phase := .idle, isOwned := false } else .error (.cannotFinish m.phase)

def fail (m : Machine) : Except Refusal Machine :=
  if m.isActive || m.isStopRequested then .ok { m with phase := .failed, isOwned := false, mayPass := true }
  else .error (.cannotFail m.phase)

def reset (m : Machine) : Except Refusal Machine :=
  if m.isActive then .error .resetWhileActive
  else if m.isOwned then .error (.stillStopping m.session)
  else .ok { m with phase := .idle, mayPass := true }

end Machine

/-! ### Actions -/

inductive Action where
  | start
  | pause
  | resume
  | stop
  | completeStop
  | finish
  | fail
  | reset
deriving Repr, DecidableEq

/-- The machine after an action; a stop also tells whether anything was stopped. -/
def Machine.act (m : Machine) : Action → Except Refusal (Machine × Option Bool)
  | .start => m.start.map (·, none)
  | .pause => m.pause.map (·, none)
  | .resume => m.resume.map (·, none)
  | .stop => .ok (m.stop.1, some m.stop.2)
  | .completeStop => m.completeStop.map (·, none)
  | .finish => m.finish.map (·, none)
  | .fail => m.fail.map (·, none)
  | .reset => m.reset.map (·, none)

/-- The phase change that listeners hear of. -/
def Machine.change? (before after : Machine) : Option (Phase × Phase) :=
  if before.phase = after.phase then none else some (before.phase, after.phase)

end Playbook
