import Playbook.Execution.Machine
/-!
# Waiting at a step boundary

Whoever arrives at a boundary passes unless the machine is paused. A waiter sleeps until the machine lets it
pass and then looks at the phase again, so it stays if a new pause came first.
-/

namespace Playbook

inductive Waiter where
  | arrived
  | asleep
  | woken
  | passed (goesOn : Bool)
deriving Repr, DecidableEq

namespace Waiter

/-- The machine opened the boundary. -/
def wake : Waiter → Waiter
  | asleep => woken
  | w => w

def look (m : Machine) : Waiter → Waiter
  | arrived | woken => if m.phase = .paused then asleep else passed (!m.isStopRequested)
  | w => w

end Waiter

/-- Whether an action opened the boundary, which wakes everyone who sleeps there. -/
def Machine.opens (before after : Machine) : Bool := !before.mayPass && after.mayPass

/-- A machine with the waiters at its boundary and a log of what each listener heard. -/
structure Monitor where
  machine : Machine
  waiters : List Waiter
  listeners : Nat
  heard : List (Nat × Phase × Phase)
deriving Repr, DecidableEq

namespace Monitor

def new (session : String) (listeners : Nat) : Monitor := ⟨.new session, [], listeners, []⟩

def arrive (o : Monitor) : Monitor := { o with waiters := o.waiters ++ [.arrived] }

def act (o : Monitor) (a : Action) : Monitor × Except Refusal (Option Bool) :=
  match o.machine.act a with
  | .error e => (o, .error e)
  | .ok (m, reply) =>
    let waiters := if o.machine.opens m then o.waiters.map Waiter.wake else o.waiters
    let heard := match o.machine.change? m with
      | none => o.heard
      | some (before, after) => o.heard ++ (List.range o.listeners).map (·, before, after)
    ({ o with machine := m, waiters := waiters, heard := heard }, .ok reply)

/-- Everyone who can move looks at the machine. -/
def settle (o : Monitor) : Monitor := { o with waiters := o.waiters.map (·.look o.machine) }

def forget (o : Monitor) : Monitor := { o with heard := [] }

end Monitor

end Playbook
