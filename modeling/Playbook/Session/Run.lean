import Playbook.Session.Basic
import Playbook.Skill.Registry
/-!
# Runs

A run goes through the blocks of a playbook from top to bottom. Plain blocks are recorded, directives are
carried out as steps. Between two blocks is a boundary, where the run waits while its session is paused and
leaves when it is stopped; at the end nothing is waited for.
-/

namespace Playbook

structure Run where
  /-- The number of the session. -/
  session : Nat
  blocks : List Block
  /-- The index of the block that comes next. -/
  next : Nat
  steps : List StepReport
  root : Path
  /-- Whether the run may ask questions. -/
  asks : Bool
  observer : Observer
  /-- Whether the session remembers the report. -/
  isRemembered : Bool
  /-- Whether the run rests for a while after each step. -/
  rests : Bool

/-! ### Plain blocks -/

/-- Whether the block was the input of the step before it. -/
def isPayload (r : Registry) (blocks : List Block) (index : Nat) : Bool :=
  match previousBlock blocks index with
  | some b => b.isDirective && ((r.get? b.name).map (·.takesNextBlock)).getD false
  | none => false

/-- What a plain block adds to the conversation: text and code that nobody took, but neither blank text nor comments. -/
def plainMessages (r : Registry) (blocks : List Block) (index : Nat) (b : Block) : List Message :=
  if b.name = Block.textName then if Text.blank b.content then [] else [.agent b.content]
  else if b.name = Block.codeName then if isPayload r blocks index then [] else [.agent b.content]
  else []

namespace Run

def report (run : Run) (ending : Ending) (phase : Phase) : RunReport := ⟨ending, phase, run.steps, run.blocks.length⟩

def isAtEnd (run : Run) : Bool := run.blocks.length ≤ run.next

/-- The session after the run ended with a result. -/
def remember (run : Run) (result : Except Failure RunReport) (s : Session) : Session :=
  match result with
  | .ok r => if run.isRemembered then { s with lastRun := some r } else s
  | .error _ => s

/-! ### At a boundary -/

inductive Boundary where
  | wait
  | leave
  | finish
  | plain (block : Block)
  | step (block : Block)

/-- What a run does next, given the machine of its session. -/
def boundary (run : Run) (m : Machine) : Boundary :=
  match run.blocks[run.next]? with
  | some block =>
    if m.phase = .paused then .wait
    else if m.isStopRequested then .leave
    else if block.isDirective then .step block
    else .plain block
  | none => if m.isStopRequested then .leave else .finish

/-! ### Steps -/

/-- The api for the step at `next`, over the present state of the session and the host. -/
def api (run : Run) (s : Session) (h : Host) (pending : List Message) : Api where
  contexts := s.contexts
  bindings := s.bindings
  client := s.client
  host := if run.asks then h else { h with answers := none }
  pending := pending
  blocks := run.blocks
  index := run.next
  root := run.root

def sessionAfter (s : Session) (api : Api) : Session :=
  { s with contexts := api.contexts, bindings := api.bindings, client := api.client }

def hostAfter (run : Run) (h : Host) (api : Api) : Host :=
  if run.asks then api.host else { api.host with answers := h.answers }

/-- The report of the step at `next`. -/
def stepReport (run : Run) (block : Block) (messages : List Message) (failure : Option Failure) : StepReport :=
  ⟨run.next, block.name, block.line, messages, failure⟩

def advance (run : Run) : Run := { run with next := run.next + 1 }

def addStep (run : Run) (s : StepReport) : Run := { run with steps := run.steps ++ [s] }

end Run

end Playbook
