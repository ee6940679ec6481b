import Playbook.Proofs.Session.View
/-!
# Histories of a workbench

A history is a list of moves in any order: a task takes its next step, somebody else gives a command to a
session, starts a run, opens a gate or cancels a task. No scheduler is fixed, so whatever holds after every
history holds for every interleaving; the scheduler that the workbench runs is one of them. The chronicle of a
history tells what happened to the runs, each happening with the number of its session.
-/

namespace Playbook

/-! ### Moves -/

inductive Move where
  /-- A task takes its next step, if it may go on. -/
  | turn (t : Nat)
  /-- The task that has rested longest may go on, as no other task can. -/
  | rouse
  /-- A command from outside. -/
  | request (c : Command)
  | start (o : Workbench.Order)
  | openSession (id : String)
  | parse (id text : String)
  | release (gate : String)
  | cancel (t : Nat)

namespace Workbench

/-- A request that is turned down changes nothing. -/
def move (w : Workbench) : Move → Workbench
  | .turn t => w.step t
  | .rouse =>
    match w.turns, w.resting with
    | [], t :: resting => { w with turns := [t], resting := resting }
    | _, _ => w
  | .request c =>
    match w.carryOut c with
    | .ok (w', _) => w'
    | .error _ => w
  | .start o => ((w.enter o).1.addTask (w.enter o).2).1
  | .openSession id =>
    match w.openSession id with
    | .ok (w', _) => w'
    | .error _ => w
  | .parse id text =>
    match w.parse id text with
    | .ok (w', _) => w'
    | .error _ => w
  | .release gate => (w.openGate gate).1
  | .cancel t => (w.cancel t).1

def after (w : Workbench) (ms : List Move) : Workbench := ms.foldl move w

@[simp] theorem after_cons (w : Workbench) (m : Move) (ms : List Move) : w.after (m :: ms) = (w.move m).after ms := rfl

theorem after_append (w : Workbench) (ms ms' : List Move) : w.after (ms ++ ms') = (w.after ms).after ms' :=
  List.foldl_append

/-- The scheduler follows some history of turns. -/
theorem settle_eq_after (fuel : Nat) (w : Workbench) : ∃ ms, w.settle fuel = w.after ms := by
  induction fuel generalizing w with
  | zero => exact ⟨[], rfl⟩
  | succ fuel ih =>
      unfold settle
      cases hturns : w.turns with
      | cons t turns =>
          obtain ⟨ms, hms⟩ := ih (w.step t)
          exact ⟨.turn t :: ms, hms⟩
      | nil =>
          cases hresting : w.resting with
          | cons t resting =>
              obtain ⟨ms, hms⟩ := ih { w with turns := [t], resting := resting }
              refine ⟨.rouse :: ms, ?_⟩
              rw [after_cons, move, hturns, hresting]
              exact hms
          | nil => exact ⟨[], rfl⟩

end Workbench

/-! ### Happenings -/

/-- What can happen to the runs of a session, given by its number. -/
inductive Happening where
  | started (n : Nat)
  /-- A run begins with the block at the index: it records it, or its step sets out. -/
  | began (n index : Nat) (block : Block)
  | paused (n : Nat)
  | resumed (n : Nat)
  /-- A stop or the close of the session stopped its run. -/
  | stopped (n : Nat)
  /-- A step is over, with the messages that it queued and the result of its skill. -/
  | ended (n : Nat) (queued : List Message) (result : Except Failure (List Message))
  /-- A run left with a report that the session keeps, or without any as it was cancelled. -/
  | left (n : Nat) (report : Option RunReport)

def Happening.session : Happening → Nat
  | started n | began n .. | paused n | resumed n | stopped n | ended n .. | left n _ => n

/-- What a command that was carried out brings about, unless it starts a run: a stop has to tell that it found a run
to stop, a close has to find one. -/
def Command.brings (c : Command) (n : Nat) (m : Machine) (answer : Answer) : List Happening :=
  match c with
  | pause _ => [.paused n]
  | resume _ => [.resumed n]
  | stop _ => if answer = .flag true then [.stopped n] else []
  | close _ => if m.isActive then [.stopped n] else []
  | reset .. | phase _ | run .. => []

namespace Workbench

def granted (w : Workbench) (c : Command) : List Happening :=
  match w.carryOut c, w.sessions.number? c.session with
  | .ok (_, answer), some n => c.brings n (w.session n).machine answer
  | _, _ => []

def admitted (w : Workbench) (o : Order) : List Happening :=
  match (w.enter o).2 with
  | .ok run => [.started run.session]
  | .error _ => []

/-- What happens at the end of a skill's step that leads to `w'`; a failure ends the run as well. -/
def closed (run : Run) (pending : List Message) (result : Except Failure (List Message)) (w' : Workbench) :
    List Happening :=
  match result with
  | .ok _ => [.ended run.session pending result]
  | .error _ => [.ended run.session pending result, .left run.session (w'.session run.session).lastRun]

/-- What happens to a run at a boundary, in a step that leads to `w'`. -/
def crossed (run : Run) (w' : Workbench) : Run.Boundary → List Happening
  | .wait => []
  | .plain block | .step block => [.began run.session run.next block]
  | .leave | .finish => [.left run.session (w'.session run.session).lastRun]

/-- What happens in a step of a task that leads to `w'`. -/
def turned (w : Workbench) (t : Nat) (w' : Workbench) : List Happening :=
  match w.task t with
  | .ready (⟨run, .boundary⟩ :: _) => crossed run w' (run.boundary (w.session run.session).machine)
  | .ready (⟨run, .working pending (.finish result)⟩ :: _) => closed run pending result w'
  | .ready (⟨_, .working _ (.command (.run id text) _)⟩ :: _) => w.admitted ⟨id, text, .nobody⟩
  | .ready (⟨_, .working _ (.command c _)⟩ :: _) => w.granted c
  | _ => []

def happenings (w : Workbench) (m : Move) : List Happening :=
  match m with
  | .turn t => w.turned t (w.move m)
  | .request c => w.granted c
  | .start o => w.admitted o
  | .cancel t => (w.stack t).map fun f => .left f.run.session none
  | .rouse | .openSession _ | .parse .. | .release _ => []

def chronicle (w : Workbench) : List Move → List Happening
  | [] => []
  | m :: ms => w.happenings m ++ (w.move m).chronicle ms

end Workbench

/-! ### Observers that only listen -/

/-- Every callback returns normally. -/
def Observer.IsCalm (o : Observer) : Prop := ∀ c, o.failure? c = none

/-- All the observers from outside only listen. -/
def Move.IsCalm : Move → Prop
  | start o => o.observer.IsCalm
  | _ => True

theorem nobody_isCalm : Observer.nobody.IsCalm := fun _ => rfl

/-! ### A short history

A playbook with one step that waits at a gate, and requests that come while it waits. -/

namespace Held

def host : Host := .bare ⟨[]⟩

def skill : Skill := ⟨"hold", "", [], false, fun _ => .wait "gate" (.finish (.ok (.messages [.agent "held"])))⟩

def bench : Workbench := .new [("hold", skill)] .standard none host

def order : Workbench.Order := ⟨"s", "@hold", .nobody⟩

/-- The step waits while somebody asks for something, and then the run leaves. -/
def moves (c : Command) : List Move := [.turn 0, .turn 0, .request c, .release "gate", .turn 0, .turn 0]

theorem isCalm (c : Command) : ∀ m ∈ .start order :: moves c, m.IsCalm := by
  intro m hm
  simp only [moves, List.mem_cons, List.not_mem_nil, or_false] at hm
  rcases hm with rfl | rfl | rfl | rfl | rfl | rfl | rfl
  · exact nobody_isCalm
  all_goals trivial

end Held

end Playbook
