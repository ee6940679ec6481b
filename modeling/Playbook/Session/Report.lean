import Playbook.Conversation.Message
import Playbook.Execution.Highlights
import Playbook.Execution.Phase
import Playbook.Failure
/-!
# Reports and events

What is known of a run when it is over, and what can be observed while it goes on.
-/

namespace Playbook

/-- One directive that was carried out; without a failure it succeeded. -/
structure StepReport where
  index : Nat
  name : String
  line : Nat
  messages : List Message
  failure : Option Failure
deriving Repr, DecidableEq

namespace StepReport

def isSuccess (s : StepReport) : Bool := s.failure.isNone

def error (s : StepReport) : Option WideString := s.failure.map (·.message)

end StepReport

inductive Ending where
  | completed
  | stopped
  | failed (line : Nat) (failure : Failure)
deriving Repr, DecidableEq

structure RunReport where
  ending : Ending
  phase : Phase
  steps : List StepReport
  blocks : Nat
deriving Repr, DecidableEq

namespace RunReport

def isSuccess (r : RunReport) : Bool := r.ending == .completed

def isStopped (r : RunReport) : Bool := r.ending == .stopped

def failedLine (r : RunReport) : Option Nat :=
  match r.ending with
  | .failed line _ => some line
  | _ => none

def error (r : RunReport) : Option WideString :=
  match r.ending with
  | .failed _ failure => some failure.message
  | _ => none

end RunReport

/-! ### Events -/

inductive Event where
  | phase (session : String) (before after : Phase)
  | highlight (session : String) (event : HighlightEvent)
  /-- Plain blocks are passed without messages. -/
  | progress (index : Nat) (block : String) (messages : Option (List Message))
  | error (index : Nat) (block : String) (failure : Failure)
  | complete
deriving Repr, DecidableEq

/-! ### Observers -/

inductive Callback where
  | progress
  | error
  | complete
deriving Repr, DecidableEq

/-- Who follows a run, if anybody does. A callback may fail after it has heard of the event. -/
structure Observer where
  listens : Bool
  failing : List (Callback × Failure)
deriving Repr, DecidableEq

namespace Observer

def nobody : Observer := ⟨false, []⟩

def hears (o : Observer) (e : Event) : List Event := if o.listens then [e] else []

def failure? (o : Observer) (c : Callback) : Option Failure := if o.listens then o.failing.lookup c else none

end Observer

end Playbook
