import Playbook.Proofs.Session.Command
import Playbook.Proofs.Session.History
/-!
# What a turn of a task does

`Turn` lists everything that one step of a task can do to sessions and stacks, with the phase of the machine that
made it do so. Proofs about histories follow this list and never open the step function. A turn assumes of the
innermost run only that it has its session, and that a step in progress is the step of some block. For each entry
of the list there is a lemma that says when it is taken.
-/

namespace Playbook

/-- The result of a run that tells its observer of its end: a callback that fails takes the report away. -/
def Run.told (run : Run) (c : Callback) (r : RunReport) : Except Failure RunReport :=
  match run.observer.failure? c with
  | some f => .error f
  | none => .ok r

/-- Only a session that was made can have a run. -/
theorem Sessions.lt_length_of_taken {s : Sessions} {n : Nat} (h : (s.get n).machine.phase.isTaken = true) :
    n < s.made.length := by
  by_contra hn
  rw [get_of_length_le s (Nat.le_of_not_lt hn)] at h
  cases h

/-- A step in progress is the step of some block. -/
def Frame.IsPlaced (f : Frame) : Prop := f.point = .boundary ∨ ∃ block, f.run.blocks[f.run.next]? = some block

/-- The last report is all that a session has from a run that is over. -/
theorem Run.remember_eq (run : Run) (result : Except Failure RunReport) (s : Session) :
    ∃ last, run.remember result s = { s with lastRun := last } := by
  unfold remember
  split
  · split
    · exact ⟨_, rfl⟩
    · exact ⟨s.lastRun, rfl⟩
  · exact ⟨s.lastRun, rfl⟩

theorem Run.machine_remember (run : Run) (result : Except Failure RunReport) (s : Session) :
    (run.remember result s).machine = s.machine := by
  obtain ⟨last, h⟩ := run.remember_eq result s
  rw [h]

theorem Run.contexts_remember (run : Run) (result : Except Failure RunReport) (s : Session) :
    (run.remember result s).contexts = s.contexts := by
  obtain ⟨last, h⟩ := run.remember_eq result s
  rw [h]

namespace Workbench

/-- What a task does whose innermost run told its observer of a block: a callback that fails ends the run. -/
def toldTask (run : Run) (outer : List Frame) (s : TaskState) : TaskState :=
  match run.observer.failure? .progress with
  | some f => leftTask outer (.error f)
  | none => s

/-- One session is all that changed, but perhaps for whose turn it is. -/
structure Touches (w : Workbench) (n : Nat) (f : Session → Session) (w' : Workbench) : Prop where
  sessions : w'.sessions = w.sessions.update n f
  allStacks : w'.allStacks = w.allStacks
  host : w'.host = w.host
  registry : w'.registry = w.registry

/-- One session and the runs of one task are all that changed. -/
structure Changes (w : Workbench) (t n : Nat) (f : Session → Session) (s : TaskState) (w' : Workbench) : Prop where
  sessions : w'.sessions = w.sessions.update n f
  allStacks : w'.allStacks = w.allStacks.set t s.frames
  task : w'.task t = s
  host : w'.host = w.host
  registry : w'.registry = w.registry

/-- A step of a task, by what the task was about to do, and what happens in it. -/
inductive Turn (w : Workbench) (t : Nat) (w' : Workbench) : List Happening → Prop
  /-- The task waits, begins to wait, or is over. -/
  | rests (hsessions : w'.sessions = w.sessions) (hstacks : w'.allStacks = w.allStacks) :
      Turn w t w' []
  | stops {run : Run} {outer : List Frame} (hw : w.task t = .ready (⟨run, .boundary⟩ :: outer))
      (hphase : (w.session run.session).machine.phase = .stopped)
      (h : Changes w t run.session
        (fun s => run.remember (.ok (run.report .stopped .idle))
          { s with highlights := .none, machine := s.machine.released .idle })
        (leftTask outer (.ok (run.report .stopped .idle))) w') :
      Turn w t w' [.left run.session (w'.session run.session).lastRun]
  | completes {run : Run} {outer : List Frame} (hw : w.task t = .ready (⟨run, .boundary⟩ :: outer))
      (hend : run.isAtEnd = true) (hactive : (w.session run.session).machine.isActive = true)
      (h : Changes w t run.session
        (fun s => run.remember (run.told .complete (run.report .completed .idle))
          { s with highlights := .none, machine := s.machine.released .idle })
        (leftTask outer (run.told .complete (run.report .completed .idle))) w') :
      Turn w t w' [.left run.session (w'.session run.session).lastRun]
  | records {run : Run} {outer : List Frame} {block : Block} (hw : w.task t = .ready (⟨run, .boundary⟩ :: outer))
      (hblock : run.blocks[run.next]? = some block) (hplain : block.isDirective = false)
      (hrunning : (w.session run.session).machine.phase = .running)
      (h : Changes w t run.session (·.record (plainMessages w.registry run.blocks run.next block))
        (toldTask run outer (.ready (⟨run.advance, .boundary⟩ :: outer))) w') :
      Turn w t w' [.began run.session run.next block]
  | begins {run : Run} {outer : List Frame} {block : Block} (hw : w.task t = .ready (⟨run, .boundary⟩ :: outer))
      (hblock : run.blocks[run.next]? = some block) (hdirective : block.isDirective = true)
      (hrunning : (w.session run.session).machine.phase = .running)
      (h : Changes w t run.session (fun s => { s with highlights := .after (.current block.line) })
        (.ready (⟨run, .working [] (w.registry.dispatch block.name block.arguments)⟩ :: outer)) w') :
      Turn w t w' [.began run.session run.next block]
  | succeeds {run : Run} {outer : List Frame} {pending messages : List Message} {block : Block}
      (hw : w.task t = .ready (⟨run, .working pending (.finish (.ok messages))⟩ :: outer))
      (hblock : run.blocks[run.next]? = some block)
      (h : Changes w t run.session (·.record (pending ++ messages))
        (toldTask run outer (.ready
          (⟨(run.addStep (run.stepReport block (pending ++ messages) none)).advance, .boundary⟩ :: outer))) w') :
      Turn w t w' [.ended run.session pending (.ok messages)]
  | fails {run : Run} {outer : List Frame} {pending : List Message} {f : Failure} {block : Block}
      (hw : w.task t = .ready (⟨run, .working pending (.finish (.error f))⟩ :: outer))
      (hblock : run.blocks[run.next]? = some block)
      (h : Changes w t run.session
        (fun s => run.remember
          (run.told .error ((run.addStep (run.stepReport block pending (some f))).report (.failed block.line f) .failed))
          { s.record pending with
            highlights := .after (.failed block.line)
            machine := { s.machine.released .failed with mayPass := true } })
        (leftTask outer
          (run.told .error ((run.addStep (run.stepReport block pending (some f))).report (.failed block.line f) .failed)))
        w') :
      Turn w t w' [.ended run.session pending (.error f), .left run.session (w'.session run.session).lastRun]
  | works {run : Run} {outer : List Frame} {pending : List Message} {piece : Work Product}
      {next : Except Failure Product → Activity (List Message)} {result : Except Failure Product} {api : Api}
      (hw : w.task t = .ready (⟨run, .working pending (.work piece next)⟩ :: outer))
      (hwork : piece.run (run.api (w.session run.session) w.host pending) = (result, api))
      (h : Changes w t run.session (Run.sessionAfter · api) (.ready (⟨run, .working api.pending (next result)⟩ :: outer))
        { w' with host := w.host }) (hhost : w'.host = run.hostAfter w.host api) :
      Turn w t w' []
  | waits {run : Run} {outer : List Frame} {pending : List Message} {gate : String} {next : Activity (List Message)}
      (hw : w.task t = .ready (⟨run, .working pending (.wait gate next)⟩ :: outer))
      (h : Changes w t run.session id (.atGate gate (⟨run, .working pending next⟩ :: outer)) w') :
      Turn w t w' []
  | enters {run inner : Run} {outer : List Frame} {pending : List Message} {name text : String}
      {next : Except Failure Answer → Activity (List Message)} {w₁ : Workbench}
      (hw : w.task t = .ready (⟨run, .working pending (.command (.run name text) next)⟩ :: outer))
      (hentered : Entered w ⟨name, text, .nobody⟩ w₁ (.ok inner)) (hsessions : w'.sessions = w₁.sessions)
      (hstacks : w'.allStacks = w.allStacks.set t (⟨inner, .boundary⟩ :: ⟨run, .awaiting pending next⟩ :: outer)) :
      Turn w t w' [.started inner.session]
  | turnedAway {run : Run} {outer : List Frame} {pending : List Message} {name text : String}
      {next : Except Failure Answer → Activity (List Message)} {w₁ : Workbench} {f : Failure}
      (hw : w.task t = .ready (⟨run, .working pending (.command (.run name text) next)⟩ :: outer))
      (hentered : Entered w ⟨name, text, .nobody⟩ w₁ (.error f)) (hsessions : w'.sessions = w₁.sessions)
      (hstacks : w'.allStacks = w.allStacks.set t (⟨run, .working pending (next (.error f))⟩ :: outer)) :
      Turn w t w' []
  | commands {run : Run} {outer : List Frame} {pending : List Message} {c : Command}
      {next : Except Failure Answer → Activity (List Message)} {w₁ : Workbench} {answer : Answer}
      {es : List Happening} (hw : w.task t = .ready (⟨run, .working pending (.command c next)⟩ :: outer))
      (hcarried : Carried w c w₁ es) (hsessions : w'.sessions = w₁.sessions)
      (hstacks : w'.allStacks = w.allStacks.set t (⟨run, .working pending (next (.ok answer))⟩ :: outer)) :
      Turn w t w' es
  | refused {run : Run} {outer : List Frame} {pending : List Message} {c : Command}
      {next : Except Failure Answer → Activity (List Message)} {f : Failure}
      (hw : w.task t = .ready (⟨run, .working pending (.command c next)⟩ :: outer))
      (h : Changes w t run.session id (.ready (⟨run, .working pending (next (.error f))⟩ :: outer)) w') :
      Turn w t w' []

/-! ### Changes that make up a step -/

theorem frames_leftTask (outer : List Frame) (result : Except Failure RunReport) :
    (leftTask outer result).frames = left outer result := by
  unfold leftTask
  cases left outer result with
  | nil => rfl
  | cons frame frames => rfl

section Touch

variable {w v w' : Workbench} {t n : Nat} {f g : Session → Session}

theorem Touches.trans (h : Touches w n f v) (h' : Touches v n g w') : Touches w n (g ∘ f) w' where
  sessions := by rw [h'.sessions, h.sessions, Sessions.update_update]
  allStacks := h'.allStacks.trans h.allStacks
  host := h'.host.trans h.host
  registry := h'.registry.trans h.registry

theorem touches_refl (w : Workbench) (n : Nat) : Touches w n id w := ⟨(Sessions.update_id ..).symm, rfl, rfl, rfl⟩

theorem touches_setSession (w : Workbench) (n : Nat) (f : Session → Session) (events : List Event) :
    Touches w n f (w.setSession n (f (w.session n), events)) := ⟨rfl, rfl, rfl, rfl⟩

theorem touches_highlight (w : Workbench) (n : Nat) (e : HighlightEvent) :
    Touches w n (fun s => { s with highlights := .after e }) (w.highlight n e) := ⟨rfl, rfl, rfl, rfl⟩

theorem touches_moved (w : Workbench) (n : Nat) (m : Machine) :
    Touches w n (fun s => { s with machine := m }) (w.moved n m) :=
  ⟨sessions_moved w n m, stacks_moved w n m, host_moved w n m, registry_moved w n m⟩

theorem Touches.note (h : Touches w n f v) (events : List Event) : Touches w n f (v.note events) :=
  ⟨h.sessions, h.allStacks, h.host, h.registry⟩

/-- Only what becomes of the session itself counts. -/
theorem Touches.congr (h : Touches w n f v) (hfg : f (w.session n) = g (w.session n)) : Touches w n g v :=
  ⟨h.sessions.trans (Sessions.update_congr _ _ hfg), h.allStacks, h.host, h.registry⟩

theorem Touches.session (h : Touches w n f v) (hn : n < w.sessions.made.length) : v.session n = f (w.session n) := by
  rw [session_eq, h.sessions, Sessions.get_update_same _ _ hn]
  rfl

/-- Then the task is set. -/
theorem Touches.setTask (h : Touches w n f v) (ht : t < w.tasks.length) (s : TaskState) :
    Changes w t n f s (v.setTask t s) where
  sessions := h.sessions
  allStacks := by rw [stacks_setTask, h.allStacks]
  task := by
    have hlength : v.tasks.length = w.tasks.length := by rw [← length_stacks, h.allStacks, length_stacks]
    exact task_setTask_same v s (hlength ▸ ht)
  host := h.host
  registry := h.registry

/-- What became of the session. -/
theorem Changes.session {s : TaskState} (h : Changes w t n f s w') (hn : n < w.sessions.made.length) :
    w'.session n = f (w.session n) := by
  rw [session_eq, h.sessions, Sessions.get_update_same _ _ hn]
  rfl

theorem Changes.machine {s : TaskState} (h : Changes w t n f s w') (hf : ∀ s, (f s).machine = s.machine) :
    (w'.session n).machine = (w.session n).machine := by
  rw [session_eq, h.sessions, Sessions.apply_get_update _ _ _ _ Session.machine hf]
  rfl

end Touch

/-! ### Ending -/

section Leave

variable {w v : Workbench} {t n : Nat} {run : Run} {outer : List Frame} {f : Session → Session}

theorem Touches.leave (h : Touches w n f v) (ht : t < w.tasks.length) (hrun : run.session = n) (outer : List Frame)
    (result : Except Failure RunReport) :
    Changes w t n (fun s => run.remember result (f s)) (leftTask outer result) (v.leave t run outer result) := by
  subst hrun
  exact (h.trans (touches_setSession v run.session (run.remember result) [])).setTask ht (leftTask outer result)

theorem tell_of_failure {c : Callback} {e : Event} {go : Workbench → Workbench} {fault : Failure}
    (h : run.observer.failure? c = some fault) :
    v.tell t run outer c e go = (v.note (run.observer.hears e)).leave t run outer (.error fault) := by
  unfold tell
  simp only [h]

theorem tell_of_none {c : Callback} {e : Event} {go : Workbench → Workbench}
    (h : run.observer.failure? c = none) : v.tell t run outer c e go = go (v.note (run.observer.hears e)) := by
  unfold tell
  simp only [h]

/-- A run that tells its observer of its end leaves with what it told. -/
theorem Touches.tell_leave (h : Touches w n f v) (ht : t < w.tasks.length) (hrun : run.session = n) {c : Callback}
    {e : Event} {go : Workbench → Workbench} {r : RunReport}
    (hgo : ∀ v' : Workbench, Touches w n f v' → go v' = v'.leave t run outer (.ok r)) :
    Changes w t n (fun s => run.remember (run.told c r) (f s)) (leftTask outer (run.told c r))
      (v.tell t run outer c e go) := by
  have hnote := h.note (run.observer.hears e)
  unfold Run.told
  cases hf : run.observer.failure? c with
  | some fault =>
      rw [tell_of_failure hf]
      exact hnote.leave ht hrun outer (.error fault)
  | none =>
      rw [tell_of_none hf, hgo _ hnote]
      exact hnote.leave ht hrun outer (.ok r)

/-- A run that tells its observer of a block goes on, unless the callback fails. -/
theorem Touches.tell_block (h : Touches w n f v) (ht : t < w.tasks.length) (hrun : run.session = n) {e : Event}
    {go : Workbench → Workbench} {s : TaskState}
    (hgo : ∀ v' : Workbench, Touches w n f v' → Changes w t n f s (go v')) :
    Changes w t n f (toldTask run outer s) (v.tell t run outer .progress e go) := by
  have hnote := h.note (run.observer.hears e)
  unfold toldTask
  cases hf : run.observer.failure? .progress with
  | some fault =>
      rw [tell_of_failure hf]
      exact hnote.leave ht hrun outer (.error fault)
  | none =>
      rw [tell_of_none hf]
      exact hgo _ hnote

/-- A run that reports right after its machine moved reports the phase that the machine moved to. -/
theorem Touches.reportNow (h : Touches w n f v) (hn : n < w.sessions.made.length) (hrun : run.session = n)
    (ending : Ending) : v.reportNow run ending = run.report ending (f (w.session n)).machine.phase := by
  rw [Workbench.reportNow, hrun, h.session hn]

end Leave

/-! ### When each step is taken -/

section Step

variable {w : Workbench} {t : Nat} {run : Run} {outer : List Frame} {block : Block}

theorem step_boundary (hw : w.task t = .ready (⟨run, .boundary⟩ :: outer)) :
    w.step t = w.stepBoundary t run outer := by
  rw [step, hw]

theorem step_working {pending : List Message} {activity : Activity (List Message)}
    (hw : w.task t = .ready (⟨run, .working pending activity⟩ :: outer)) :
    w.step t = w.stepActivity t run outer pending activity := by
  rw [step, hw]

/-- The machine of a session acts after the session was touched. -/
theorem Touches.act {v : Workbench} {n : Nat} {f : Session → Session} (h : Touches w n f v)
    (hn : n < w.sessions.made.length) {a : Action} {m : Machine} {reply : Option Bool}
    (ha : (f (w.session n)).machine.act a = .ok (m, reply)) :
    v.act n a = .ok (v.moved n m, reply) ∧ Touches w n (fun s => { f s with machine := m }) (v.moved n m) := by
  rw [← h.session hn] at ha
  exact ⟨act_of_ok ha, h.trans (touches_moved v n m)⟩

/-! At a boundary -/

theorem boundary_of_paused (hblock : run.blocks[run.next]? = some block) {m : Machine} (hphase : m.phase = .paused) :
    run.boundary m = .wait := by
  simp only [Run.boundary, hblock, hphase, if_true]

theorem boundary_of_stopped {m : Machine} (hphase : m.phase = .stopped) : run.boundary m = .leave := by
  have hstop : m.isStopRequested = true := Machine.isStopRequested_iff.2 hphase
  unfold Run.boundary
  cases run.blocks[run.next]? with
  | none => simp only [hstop, if_true]
  | some block => simp [hphase, hstop]

theorem boundary_of_active (hend : run.blocks[run.next]? = none) {m : Machine} (hactive : m.isActive = true) :
    run.boundary m = .finish := by
  have hstop : m.isStopRequested = false := by
    rw [Machine.isActive] at hactive
    cases hp : m.phase <;> simp_all [Machine.isStopRequested, Phase.isActive]
  simp [Run.boundary, hend, hstop]

theorem boundary_of_running (hblock : run.blocks[run.next]? = some block) {m : Machine} (hphase : m.phase = .running) :
    run.boundary m = if block.isDirective then .step block else .plain block := by
  simp [Run.boundary, hblock, hphase, Machine.isStopRequested]

/-- The run waits, and nothing changes but that. -/
theorem step_pauses (hw : w.task t = .ready (⟨run, .boundary⟩ :: outer)) (hblock : run.blocks[run.next]? = some block)
    (hphase : (w.session run.session).machine.phase = .paused) :
    Changes w t run.session id (.paused run.session (⟨run, .boundary⟩ :: outer)) (w.step t) := by
  rw [step_boundary hw, stepBoundary, boundary_of_paused hblock hphase]
  have ht := lt_length_of_ready w hw
  have hset := (touches_refl w run.session).setTask ht (.paused run.session (⟨run, .boundary⟩ :: outer))
  exact ⟨hset.sessions, hset.allStacks, hset.task, hset.host, hset.registry⟩

theorem step_stops (hw : w.task t = .ready (⟨run, .boundary⟩ :: outer))
    (hphase : (w.session run.session).machine.phase = .stopped) :
    Changes w t run.session
      (fun s => run.remember (.ok (run.report .stopped .idle))
        { s with highlights := .none, machine := s.machine.released .idle })
      (leftTask outer (.ok (run.report .stopped .idle))) (w.step t) := by
  have ht := lt_length_of_ready w hw
  have htaken : (w.session run.session).machine.phase.isTaken = true := by
    rw [hphase]
    rfl
  have hn := Sessions.lt_length_of_taken htaken
  have hstop : (w.session run.session).machine.act .completeStop
      = .ok ((w.session run.session).machine.released .idle, none) := by
    rw [Machine.act, Machine.completeStop_eq hphase]
    rfl
  obtain ⟨hact, hmoved⟩ := (touches_highlight w run.session .clear).act hn hstop
  rw [step_boundary hw, stepBoundary, boundary_of_stopped hphase]
  unfold leaveStopped tryAct
  dsimp only
  rw [hact]
  dsimp only
  rw [hmoved.reportNow hn rfl]
  exact (hmoved.congr rfl).leave ht rfl outer (.ok (run.report .stopped .idle))

theorem step_completes (hw : w.task t = .ready (⟨run, .boundary⟩ :: outer)) (hend : run.blocks[run.next]? = none)
    (hactive : (w.session run.session).machine.isActive = true) :
    Changes w t run.session
      (fun s => run.remember (run.told .complete (run.report .completed .idle))
        { s with highlights := .none, machine := s.machine.released .idle })
      (leftTask outer (run.told .complete (run.report .completed .idle))) (w.step t) := by
  have ht := lt_length_of_ready w hw
  have hn := Sessions.lt_length_of_taken (Machine.isTaken_of_isActive hactive)
  have hfinish : (w.session run.session).machine.act .finish
      = .ok ((w.session run.session).machine.released .idle, none) := by
    rw [Machine.act, Machine.finish_eq hactive]
    rfl
  obtain ⟨hact, hmoved⟩ := (touches_highlight w run.session .clear).act hn hfinish
  rw [step_boundary hw, stepBoundary, boundary_of_active hend hactive]
  unfold complete
  dsimp only
  rw [hact]
  dsimp only
  refine Touches.tell_leave (hmoved.congr rfl) ht rfl ?_
  intro v' hv'
  rw [hv'.reportNow hn rfl]
  rfl

theorem step_records (hw : w.task t = .ready (⟨run, .boundary⟩ :: outer)) (hblock : run.blocks[run.next]? = some block)
    (hplain : block.isDirective = false) (hphase : (w.session run.session).machine.phase = .running) :
    Changes w t run.session (·.record (plainMessages w.registry run.blocks run.next block))
      (toldTask run outer (.ready (⟨run.advance, .boundary⟩ :: outer))) (w.step t) := by
  have ht := lt_length_of_ready w hw
  rw [step_boundary hw, stepBoundary, boundary_of_running hblock hphase, hplain]
  exact Touches.tell_block
    (touches_setSession w run.session (·.record (plainMessages w.registry run.blocks run.next block)) []) ht rfl
    fun _ hv => hv.setTask ht _

theorem step_begins (hw : w.task t = .ready (⟨run, .boundary⟩ :: outer)) (hblock : run.blocks[run.next]? = some block)
    (hdirective : block.isDirective = true) (hphase : (w.session run.session).machine.phase = .running) :
    Changes w t run.session (fun s => { s with highlights := .after (.current block.line) })
      (.ready (⟨run, .working [] (w.registry.dispatch block.name block.arguments)⟩ :: outer)) (w.step t) := by
  rw [step_boundary hw, stepBoundary, boundary_of_running hblock hphase, hdirective]
  exact (touches_highlight w run.session (.current block.line)).setTask (lt_length_of_ready w hw) _

/-! Within a step -/

theorem goOnAfterStep_changes {v : Workbench} {n : Nat} {f : Session → Session} (h : Touches w n f v)
    (ht : t < w.tasks.length) :
    Changes w t n f (.ready (⟨run.advance, .boundary⟩ :: outer)) (goOnAfterStep t run outer v) := by
  have hset := h.setTask ht (.ready (⟨run.advance, .boundary⟩ :: outer))
  unfold goOnAfterStep goOn
  dsimp only
  split
  · exact ⟨hset.sessions, hset.allStacks, hset.task, hset.host, hset.registry⟩
  · exact hset

theorem step_succeeds {pending messages : List Message}
    (hw : w.task t = .ready (⟨run, .working pending (.finish (.ok messages))⟩ :: outer))
    (hblock : run.blocks[run.next]? = some block) :
    Changes w t run.session (·.record (pending ++ messages))
      (toldTask run outer (.ready
        (⟨(run.addStep (run.stepReport block (pending ++ messages) none)).advance, .boundary⟩ :: outer)))
      (w.step t) := by
  have ht := lt_length_of_ready w hw
  have hrecord := touches_setSession w run.session (·.record (pending ++ messages)) []
  have hsession : (run.addStep (run.stepReport block (pending ++ messages) none)).session = run.session := rfl
  rw [step_working hw, stepActivity]
  simp only [hblock]
  exact hrecord.tell_block ht hsession fun _ hv => goOnAfterStep_changes hv ht

theorem step_fails {pending : List Message} {f : Failure}
    (hw : w.task t = .ready (⟨run, .working pending (.finish (.error f))⟩ :: outer))
    (hblock : run.blocks[run.next]? = some block)
    (htaken : (w.session run.session).machine.phase.isTaken = true) :
    Changes w t run.session
      (fun s => run.remember
        (run.told .error ((run.addStep (run.stepReport block pending (some f))).report (.failed block.line f) .failed))
        { s.record pending with
          highlights := .after (.failed block.line)
          machine := { s.machine.released .failed with mayPass := true } })
      (leftTask outer
        (run.told .error ((run.addStep (run.stepReport block pending (some f))).report (.failed block.line f) .failed)))
      (w.step t) := by
  have ht := lt_length_of_ready w hw
  have hn := Sessions.lt_length_of_taken htaken
  have hsession : (run.addStep (run.stepReport block pending (some f))).session = run.session := rfl
  have hfail : (w.session run.session).machine.act .fail
      = .ok ({ (w.session run.session).machine.released .failed with mayPass := true }, none) := by
    rw [Machine.act, Machine.fail_eq htaken]
    rfl
  obtain ⟨hact, hmoved⟩ := ((touches_setSession w run.session (·.record pending) []).trans
    (touches_highlight _ run.session (.failed block.line))).act hn hfail
  rw [step_working hw, stepActivity]
  simp only [hblock]
  unfold endStep
  dsimp only
  rw [hsession, hact]
  dsimp only
  refine Touches.tell_leave (hmoved.congr rfl) ht hsession ?_
  intro v' hv'
  rw [hv'.reportNow hn hsession]
  rfl

theorem step_works {pending : List Message} {piece : Work Product}
    {next : Except Failure Product → Activity (List Message)} {result : Except Failure Product} {api : Api}
    (hw : w.task t = .ready (⟨run, .working pending (.work piece next)⟩ :: outer))
    (hwork : piece.run (run.api (w.session run.session) w.host pending) = (result, api)) :
    Changes w t run.session (Run.sessionAfter · api) (.ready (⟨run, .working api.pending (next result)⟩ :: outer))
      { w.step t with host := w.host } ∧ (w.step t).host = run.hostAfter w.host api := by
  have hafter := touches_setSession w run.session (Run.sessionAfter · api) []
  have hset := hafter.setTask (lt_length_of_ready w hw) (.ready (⟨run, .working api.pending (next result)⟩ :: outer))
  rw [step_working hw, stepActivity]
  simp only [hwork]
  exact ⟨⟨hset.sessions, hset.allStacks, hset.task, rfl, hset.registry⟩, rfl⟩

theorem step_waits {pending : List Message} {gate : String} {next : Activity (List Message)}
    (hw : w.task t = .ready (⟨run, .working pending (.wait gate next)⟩ :: outer)) :
    Changes w t run.session id (.atGate gate (⟨run, .working pending next⟩ :: outer)) (w.step t) := by
  have h : Touches w run.session id (w.arrive gate) := ⟨(Sessions.update_id ..).symm, rfl, rfl, rfl⟩
  have hset := h.setTask (lt_length_of_ready w hw) (.atGate gate (⟨run, .working pending next⟩ :: outer))
  rw [step_working hw, stepActivity]
  exact ⟨hset.sessions, hset.allStacks, hset.task, hset.host, hset.registry⟩

/-! ### Every step -/

/-- A task that cannot go on gives its turn away. -/
theorem rests_turn (hstep : w.step t = { w with turns := w.turns.filter (· ≠ t) })
    (hturned : w.turned t (w.step t) = []) : Turn w t (w.step t) (w.turned t (w.step t)) := by
  rw [hturned, hstep]
  exact .rests rfl rfl

theorem turned_boundary (hw : w.task t = .ready (⟨run, .boundary⟩ :: outer)) (w' : Workbench) :
    w.turned t w' = crossed run w' (run.boundary (w.session run.session).machine) := by
  rw [turned, hw]

theorem boundary_turn (hw : w.task t = .ready (⟨run, .boundary⟩ :: outer))
    (htaken : (w.session run.session).machine.phase.isTaken = true) :
    Turn w t (w.step t) (w.turned t (w.step t)) := by
  rw [turned_boundary hw]
  by_cases hstopped : (w.session run.session).machine.phase = .stopped
  · rw [boundary_of_stopped hstopped]
    exact .stops hw hstopped (step_stops hw hstopped)
  have hactive := Machine.isActive_of_isTaken htaken fun h => hstopped (Machine.isStopRequested_iff.1 h)
  cases hblock : run.blocks[run.next]? with
  | none =>
      rw [boundary_of_active hblock hactive]
      exact .completes hw (by simpa [Run.isAtEnd] using hblock) hactive (step_completes hw hblock hactive)
  | some block =>
      by_cases hpaused : (w.session run.session).machine.phase = .paused
      · rw [boundary_of_paused hblock hpaused]
        have h := step_pauses hw hblock hpaused
        exact .rests (h.sessions.trans (Sessions.update_id ..)) (h.allStacks.trans (stack_of_ready hw ▸ set_stack w t))
      have hrunning := Machine.running_of_isTaken htaken hpaused fun h => hstopped (Machine.isStopRequested_iff.1 h)
      rw [boundary_of_running hblock hrunning]
      cases hdirective : block.isDirective with
      | true => exact .begins hw hblock hdirective hrunning (step_begins hw hblock hdirective hrunning)
      | false => exact .records hw hblock hdirective hrunning (step_records hw hblock hdirective hrunning)

theorem stepActivity_run {pending : List Message} {name text : String}
    {next : Except Failure Answer → Activity (List Message)} :
    w.stepActivity t run outer pending (.command (.run name text) next) =
      match w.enter ⟨name, text, .nobody⟩ with
      | (w, .ok inner) => w.setTask t (.ready (⟨inner, .boundary⟩ :: ⟨run, .awaiting pending next⟩ :: outer))
      | (w, .error f) => w.stay t run outer pending (next (.error f)) := rfl

theorem stepActivity_command {pending : List Message} {c : Command}
    {next : Except Failure Answer → Activity (List Message)} (h : ∀ name text, c ≠ .run name text) :
    w.stepActivity t run outer pending (.command c next) =
      match w.carryOut c with
      | .ok (w, answer) => w.stay t run outer pending (next (.ok answer))
      | .error f => w.stay t run outer pending (next (.error f)) := by
  cases c with
  | run name text => exact absurd rfl (h name text)
  | pause | resume | stop | reset | close | phase => rfl

theorem turned_command {pending : List Message} {c : Command} {next : Except Failure Answer → Activity (List Message)}
    (hw : w.task t = .ready (⟨run, .working pending (.command c next)⟩ :: outer))
    (h : ∀ name text, c ≠ .run name text) (w' : Workbench) : w.turned t w' = w.granted c := by
  unfold turned
  rw [hw]
  cases c with
  | run name text => exact absurd rfl (h name text)
  | pause | resume | stop | reset | close | phase => rfl

theorem working_turn {pending : List Message} {activity : Activity (List Message)}
    (hw : w.task t = .ready (⟨run, .working pending activity⟩ :: outer))
    (hblock : run.blocks[run.next]? = some block)
    (htaken : (w.session run.session).machine.phase.isTaken = true) :
    Turn w t (w.step t) (w.turned t (w.step t)) := by
  cases activity with
  | finish result =>
      have hturned : w.turned t (w.step t) = closed run pending result (w.step t) := by
        rw [turned, hw]
      rw [hturned]
      cases result with
      | ok messages => exact .succeeds hw hblock (step_succeeds hw hblock)
      | error f => exact .fails hw hblock (step_fails hw hblock htaken)
  | work piece next =>
      have hturned : w.turned t (w.step t) = [] := by rw [turned, hw]
      obtain ⟨h, hhost⟩ := step_works hw rfl
      rw [hturned]
      exact .works hw rfl h hhost
  | wait gate next =>
      have hturned : w.turned t (w.step t) = [] := by rw [turned, hw]
      rw [hturned]
      exact .waits hw (step_waits hw)
  | command c next =>
      by_cases hrun : ∃ name text, c = .run name text
      · obtain ⟨name, text, rfl⟩ := hrun
        have hturned : w.turned t (w.step t) = w.admitted ⟨name, text, .nobody⟩ := by rw [turned, hw]
        have hentered := enter_entered w ⟨name, text, .nobody⟩
        rw [hturned, admitted, step_working hw, stepActivity_run]
        cases henter : w.enter ⟨name, text, .nobody⟩ with
        | mk w₁ result =>
            rw [henter] at hentered
            have hstacks : w₁.allStacks = w.allStacks := hentered.allStacks
            cases result with
            | ok inner => exact .enters hw hentered rfl ((stacks_setTask ..).trans (by rw [hstacks]; rfl))
            | error f => exact .turnedAway hw hentered rfl ((stacks_setTask ..).trans (by rw [hstacks]; rfl))
      · have hnorun : ∀ name text, c ≠ .run name text := fun name text h => hrun ⟨name, text, h⟩
        rw [turned_command hw hnorun, step_working hw, stepActivity_command hnorun]
        cases hcarry : w.carryOut c with
        | error f =>
            rw [granted_of_error hcarry]
            exact .refused hw ((touches_refl w run.session).setTask (lt_length_of_ready w hw) _)
        | ok result =>
            obtain ⟨w₁, answer⟩ := result
            have hstacks := (carried_of_ok hcarry).allStacks
            exact .commands hw (carried_of_ok hcarry) rfl ((stacks_setTask ..).trans (by rw [hstacks]; rfl))

/-- Every step of a task is one of the list. -/
theorem step_turn (w : Workbench) (t : Nat)
    (hsound : ∀ f ∈ (w.stack t).head?, (w.session f.run.session).machine.phase.isTaken = true ∧ f.IsPlaced) :
    Turn w t (w.step t) (w.turned t (w.step t)) := by
  cases hw : w.task t with
  | ready frames =>
      rw [stack_of_ready hw] at hsound
      rcases frames with _ | ⟨⟨run, point⟩, outer⟩
      · exact rests_turn (by rw [step, hw]) (by rw [turned, hw])
      cases point with
      | boundary =>
          exact boundary_turn hw (hsound _ rfl).1
      | working pending activity =>
          obtain ⟨htaken, hpoint | ⟨block, hblock⟩⟩ := hsound _ rfl
          · cases hpoint
          · exact working_turn hw hblock htaken
      | awaiting pending next => exact rests_turn (by rw [step, hw]) (by rw [turned, hw])
  | atGate | paused | ended => exact rests_turn (by rw [step, hw]) (by rw [turned, hw])

end Step

end Workbench

end Playbook
