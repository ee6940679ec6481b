import Playbook.Shell.Process
/-!
# Control of a process

How commands of a script are kept apart from one another: what they write is collected, what they change is
undone, and the ways in which they may stop are taken in.
-/

namespace Playbook.Shell

open Text (Bytes)

namespace Run

/-- Turns a channel to another sink. -/
def aim (channel : Channel) (sink : Sink) : Run Unit :=
  match channel with
  | .error => modify ({ · with error := sink })
  | _ => modify ({ · with output := sink })

def setStatus (n : Nat) : Run Unit := modify ({ · with status := n })

/-- Complains and ends the script. -/
def giveUp {α : Type} (text : String) : Run α := do
  complainAt text
  throw (.exit (← choose 1 2))

/-! ### Isolation -/

/-- Runs with everything written collected apart; gives what was written. -/
def collect {α : Type} (run : Run α) : Run (α × Bytes) := do
  let p ← get
  let n := p.buffers.length
  set { p with buffers := p.buffers ++ [[]], output := .buffer n }
  let a ← run
  let q ← get
  set { q with buffers := q.buffers.take n, output := p.output }
  return (a, Buffer.bytes ((q.buffers[n]?).getD []))

/-- Runs in a copy of the process, of which only what it did to the world stays. -/
def isolate (run : Run Unit) : Run Unit := do
  let p ← get
  let (result, q) := run.run p
  set { p with
    disk := q.disk, programs := q.programs, buffers := q.buffers, input := q.input, status := q.status, slept := q.slept }
  match result with
  | .ok () => return
  | .error (.exit code) | .error (.back code) => setStatus code
  | .error (.leave _) | .error (.next _) => return
  | .error stop => throw stop

/-- Runs as a test, where failing is no reason to end. -/
def asTest (run : Run Unit) : Run Bool := do
  modify fun p => { p with tests := p.tests + 1 }
  run
  modify fun p => { p with tests := p.tests - 1 }
  return (← get).status = 0

/-- Ends a strict script if its last command failed. -/
def check : Run Unit := do
  let p ← get
  if p.isStrict ∧ p.tests = 0 ∧ p.status ≠ 0 then throw (.exit p.status)

/-- Runs the body of a loop once and tells whether the loop goes on. -/
def round (body : Run Unit) : Run Bool := do
  let p ← get
  set { p with loops := p.loops + 1 }
  let (result, q) := body.run { p with loops := p.loops + 1 }
  set { q with loops := p.loops, tests := p.tests }
  match result with
  | .ok () => return true
  | .error (.leave n) => if n ≤ 1 then return false else throw (.leave (n - 1))
  | .error (.next n) => if n ≤ 1 then return true else throw (.next (n - 1))
  | .error stop => throw stop

/-- Runs the body of a function with its arguments; afterwards its own variables are what they were. -/
def call (args : List Bytes) (body : Run Unit) : Run Unit := do
  let p ← get
  let (result, q) := body.run { p with args := args, loops := 0, outer := some [] }
  set { q with args := p.args, loops := p.loops, outer := p.outer, tests := p.tests }
  (q.outer.getD []).forM fun (name, old) => restore name old
  match result with
  | .ok () => return
  | .error (.back code) => setStatus code
  | .error stop => throw stop

end Run

end Playbook.Shell
