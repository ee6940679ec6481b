import Playbook.Proofs.Session.Consistency
import Playbook.Proofs.Skill.Course
/-!
# Runs that are interrupted

Pausing, resuming and stopping decide when a run does something and how far it comes, not what it does. A run that
nobody interrupts is followed beside one that is: a turn of the interrupted run waits, or is the next step of the
other one, or leaves because of a stop. So both have the same conversations, variables and model at every point, and
the interrupted run comes to the same end or leaves where the other one stands before some block.
-/

namespace Playbook

/-! ### Skills that do not look at machines -/

def Command.IsControl : Command → Prop
  | pause _ | resume _ | stop _ => True
  | reset .. | close _ | phase _ | run .. => False

namespace Activity

variable {α β : Type}

/-- What is done depends on the api alone. Requests may be made, but nobody looks at the answers. -/
def IsBlind : Activity α → Prop
  | finish _ => True
  | work _ next => ∀ result, (next result).IsBlind
  | wait _ next => next.IsBlind
  | command c next => c.IsControl ∧ (∀ answer answer', next answer = next answer') ∧ ∀ answer, (next answer).IsBlind

theorem IsBlind.andThen {a : Activity α} (h : a.IsBlind) (f : α → Except Failure β) : (a.andThen f).IsBlind := by
  induction a with
  | finish result => trivial
  | work piece next ih => exact fun result => ih result (h result)
  | wait gate next ih => exact ih h
  | command c next ih =>
      obtain ⟨hc, hsame, hnext⟩ := h
      refine ⟨hc, ?_, fun answer => ih answer (hnext answer)⟩
      intro answer answer'
      exact congrArg (Activity.andThen f) (hsame answer answer')

end Activity

def Skill.IsBlind (s : Skill) : Prop := ∀ args, (s.activity args).IsBlind

theorem Skill.ofWork_isBlind (name description : String) (parameters : List Parameter) (takesNextBlock : Bool)
    (work : Arguments → Work Product) : (ofWork name description parameters takesNextBlock work).IsBlind :=
  fun _ _ => trivial

namespace Registry

def IsBlind (r : Registry) : Prop := ∀ p ∈ r, p.2.IsBlind

theorem IsBlind.dispatch {r : Registry} (h : r.IsBlind) (name : String) (args : Arguments) :
    (r.dispatch name args).IsBlind := by
  rcases r.dispatch_cases name args with ⟨f, hfails⟩ | ⟨s, hs, hdoes⟩
  · rw [hfails]
    trivial
  · rw [hdoes]
    exact (h _ hs args).andThen (messagesOf name)

end Registry

theorem Builtin.registry_isBlind (limit : Option TimeLimit) : (registry limit).IsBlind := by
  intro p hp
  obtain ⟨s, hs, rfl⟩ := List.mem_map.1 hp
  simp only [skills, List.mem_cons, List.not_mem_nil, or_false] at hs
  rcases hs with rfl | rfl | rfl | rfl | rfl | rfl
  all_goals exact Skill.ofWork_isBlind _ _ _ _ _

def Point.IsBlind : Point → Prop
  | .boundary => True
  | .working _ activity => activity.IsBlind
  | .awaiting .. => False

/-! ### What a step sees of a session -/

/-- The conversations, the variables and the model. -/
def Session.data (s : Session) : Contexts × Variables × Option Client := (s.contexts, s.bindings, s.client)

section Data

variable {s s' : Session}

theorem Run.api_congr (run : Run) (h : s.data = s'.data) (host : Host) (pending : List Message) :
    run.api s host pending = run.api s' host pending := by
  simp only [Session.data, Prod.mk.injEq] at h
  obtain ⟨hcontexts, hbindings, hclient⟩ := h
  rw [api, hcontexts, hbindings, hclient]
  rfl

theorem Session.record_congr (h : s.data = s'.data) (messages : List Message) :
    (s.record messages).data = (s'.record messages).data := by
  simp only [data, Prod.mk.injEq] at h ⊢
  obtain ⟨hcontexts, hbindings, hclient⟩ := h
  exact ⟨congrArg (·.extend messages) hcontexts, hbindings, hclient⟩

theorem Run.data_remember (run : Run) (result : Except Failure RunReport) (s : Session) :
    (run.remember result s).data = s.data := by
  obtain ⟨last, h⟩ := run.remember_eq result s
  rw [h]
  rfl

end Data

/-! ### The run that nobody interrupts -/

namespace Workbench

/-- One step of a task that nobody interrupts: gates are open, and nobody hears what the step requests. -/
def stepAlone (w : Workbench) (t : Nat) : Workbench :=
  match w.task t with
  | .ready (⟨run, .working pending (.wait _ next)⟩ :: outer) => w.stay t run outer pending next
  | .ready (⟨run, .working pending (.command c next)⟩ :: outer) =>
    w.stay t run outer pending (next (.error (.noSession c.session)))
  | _ => w.step t

/-- So many of its steps. -/
def alone (w : Workbench) (t : Nat) : Nat → Workbench
  | 0 => w
  | j + 1 => (w.stepAlone t).alone t j

end Workbench

/-- What happens around the run of a task that is interrupted: its own turns, opened gates, and requests. -/
inductive Move.Interrupts (t : Nat) : Move → Prop
  | turn : Interrupts t (.turn t)
  | release {gate : String} : Interrupts t (.release gate)
  | request {c : Command} (hc : c.IsControl) : Interrupts t (.request c)

theorem TaskState.eq_ended_of_isOver {s : TaskState} (h : s.isOver = true) : ∃ outcome, s = .ended outcome := by
  cases s with
  | ended outcome => exact ⟨outcome, rfl⟩
  | ready | atGate | paused => cases h

theorem Held.skills_isBlind : bench.registry.IsBlind := by
  intro p hp
  cases List.mem_singleton.1 hp
  exact fun _ => trivial

theorem Held.interrupts {c : Command} (hc : c.IsControl) : ∀ m ∈ moves c, m.Interrupts 0 := by
  intro m hm
  simp only [moves, List.mem_cons, List.not_mem_nil, or_false] at hm
  rcases hm with rfl | rfl | rfl | rfl | rfl | rfl
  · exact .turn
  · exact .turn
  · exact .request hc
  · exact .release
  · exact .turn
  · exact .turn

namespace Workbench

variable {w w' v v' : Workbench} {t n : Nat} {f g : Session → Session} {s s' : TaskState}

/-! ### Workbenches that look the same to a run -/

/-- Two workbenches in which a run of session `n` sees the same. -/
structure Alike (n : Nat) (w v : Workbench) : Prop where
  data : (w.session n).data = (v.session n).data
  host : w.host = v.host
  registry : w.registry = v.registry
  blind : w.registry.IsBlind
  made : n < w.sessions.made.length
  made' : n < v.sessions.made.length

/-- The run does the same in both. -/
theorem Alike.both (h : Alike n w v) (hw : Changes w t n f s w') (hv : Changes v t n g s' v')
    (hdata : (f (w.session n)).data = (g (v.session n)).data) : Alike n w' v' where
  data := by rw [hw.session h.made, hv.session h.made', hdata]
  host := by rw [hw.host, hv.host, h.host]
  registry := by rw [hw.registry, hv.registry, h.registry]
  blind := hw.registry ▸ h.blind
  made := by rw [hw.sessions, Sessions.length_made_update]; exact h.made
  made' := by rw [hv.sessions, Sessions.length_made_update]; exact h.made'

/-- What happens in one of them is of no concern. -/
theorem Alike.one (h : Alike n w v) (hw : Changes w t n f s w')
    (hdata : (f (w.session n)).data = (w.session n).data) : Alike n w' v where
  data := by rw [hw.session h.made, hdata, h.data]
  host := hw.host.trans h.host
  registry := hw.registry.trans h.registry
  blind := hw.registry ▸ h.blind
  made := by rw [hw.sessions, Sessions.length_made_update]; exact h.made
  made' := h.made'

theorem Alike.moved (h : Alike n w v) (k : Nat) (m : Machine) : Alike n (w.moved k m) v where
  data := by
    rw [session_eq, sessions_moved]
    refine Eq.trans (Sessions.apply_get_update _ _ _ _ Session.data ?_) h.data
    intro s
    rfl
  host := (host_moved w k m).trans h.host
  registry := (registry_moved w k m).trans h.registry
  blind := (registry_moved w k m).symm ▸ h.blind
  made := by rw [sessions_moved, Sessions.length_made_update]; exact h.made
  made' := h.made'

/-- The run has its session: in `w`, where a stop may have been accepted, and in `v`, where nobody asks for one. -/
structure InHand (n : Nat) (stopped : Prop) (w v : Workbench) : Prop where
  taken : (w.session n).machine.phase.isTaken = true
  running : (v.session n).machine.phase = .running
  stop : (w.session n).machine.phase = .stopped → stopped

theorem InHand.congr {p : Prop} (h : InHand n p w v) (hw : (w'.session n).machine = (w.session n).machine)
    (hv : (v'.session n).machine = (v.session n).machine) : InHand n p w' v' :=
  ⟨hw ▸ h.taken, hv ▸ h.running, hw ▸ h.stop⟩

/-- How the run of task `t` stands in `w`, and in `v`, where nobody interrupts it. -/
inductive Twins (t n : Nat) (stopped : Prop) (w v : Workbench) : Prop
  /-- At the same point. -/
  | along {run : Run} {point : Point} (h : Alike n w v) (hhand : InHand n stopped w v) (hrun : run.session = n)
      (hblind : point.IsBlind) (hplaced : Frame.IsPlaced ⟨run, point⟩) (hw : w.stack t = [⟨run, point⟩])
      (hv : v.task t = .ready [⟨run, point⟩])
  | ended {outcome : Outcome} (h : Alike n w v) (hw : w.task t = .ended outcome) (hv : v.task t = .ended outcome)
  /-- A stopped run left where the other one stands. -/
  | left {run : Run} (h : Alike n w v) (hstopped : stopped)
      (hw : w.task t = .ended (.report (run.report .stopped .idle))) (hv : v.task t = .ready [⟨run, .boundary⟩])

/-! ### Requests -/

section Requests

variable {p q : Prop} {k : Nat} {m : Machine} {es : List Happening} {o : Outcome}

theorem InHand.mono (h : InHand n p w v) (hpq : p → q) : InHand n q w v :=
  ⟨h.taken, h.running, fun hphase => hpq (h.stop hphase)⟩

theorem Twins.mono (h : Twins t n p w v) (hpq : p → q) : Twins t n q w v := by
  cases h with
  | along h hhand hrun hblind hplaced hw hv => exact .along h (hhand.mono hpq) hrun hblind hplaced hw hv
  | ended h hw hv => exact .ended h hw hv
  | left h hstopped hw hv => exact .left h (hpq hstopped) hw hv

/-- A machine that a run has is still its own after a request, and if it is stopped then it was, or is so now. -/
def Requested (k : Nat) (before after : Machine) (es : List Happening) : Prop :=
  before.phase.isTaken = true →
    after.phase.isTaken = true ∧ (after.phase = .stopped → before.phase = .stopped ∨ .stopped k ∈ es)

/-- A request moves one machine. -/
theorem Carried.requested {c : Command} (hc : c.IsControl) (h : Carried w c w' es) :
    ∃ k m, w' = w.moved k m ∧ Requested k (w.session k).machine m es := by
  cases h with
  | @pause id k m hk hm =>
      refine ⟨k, m, rfl, fun htaken => ?_⟩
      rcases Machine.pause_eq_ok.1 hm with ⟨-, rfl⟩ | ⟨-, rfl⟩
      · exact ⟨htaken, .inl⟩
      · exact ⟨rfl, nofun⟩
  | @resume id k m hk hm =>
      obtain ⟨-, rfl⟩ := Machine.resume_eq_ok.1 hm
      exact ⟨k, _, rfl, fun _ => ⟨rfl, nofun⟩⟩
  | @stop id k hk =>
      refine ⟨k, _, rfl, fun htaken => ?_⟩
      cases hactive : (w.session k).machine.isActive with
      | true =>
          rw [Machine.stop_of_active hactive]
          exact ⟨rfl, fun _ => .inr List.mem_cons_self⟩
      | false =>
          rw [Machine.stop_of_not_active hactive]
          exact ⟨htaken, .inl⟩
  | reset | close | closeUnknown | phase => exact absurd hc id

theorem InHand.moved (h : InHand n p w v) (hmade : n < w.sessions.made.length)
    (hm : Requested k (w.session k).machine m es) : InHand n (p ∨ .stopped n ∈ es) (w.moved k m) v := by
  by_cases hk : k = n
  · subst hk
    obtain ⟨htaken, hstop⟩ := hm h.taken
    have hmachine := machine_moved hmade m
    refine ⟨?_, h.running, fun hphase => ?_⟩
    · rw [hmachine]
      exact htaken
    · rw [hmachine] at hphase
      exact (hstop hphase).imp_left h.stop
  · have hsame : ((w.moved k m).session n).machine = (w.session n).machine := by
      rw [session_eq, sessions_moved, Sessions.get_update_other _ _ (Ne.symm hk)]
      rfl
    exact (h.congr hsame rfl).mono .inl

theorem stack_moved : (w.moved k m).stack t = w.stack t := by
  rw [stack_eq, stacks_moved, ← stack_eq]

/-- A task that is over stays so. -/
theorem task_moved_of_ended (hw : w.task t = .ended o) : (w.moved k m).task t = .ended o := by
  unfold moved
  dsimp only
  split
  · rw [task_wake _ _ _ rfl]
    change (if isPausedIn k (w.task t) then _ else w.task t) = _
    rw [hw]
    rfl
  · exact hw

theorem task_openGate_of_ended {gate : String} (hw : w.task t = .ended o) : (w.openGate gate).1.task t = .ended o := by
  change (w.wake (isAtGate gate)).task t = _
  rw [task_wake _ _ _ rfl, hw]
  rfl

theorem Twins.moved (h : Twins t n p w v) (hm : Requested k (w.session k).machine m es) :
    Twins t n (p ∨ .stopped n ∈ es) (w.moved k m) v := by
  cases h with
  | along h hhand hrun hblind hplaced hw hv =>
      exact .along (h.moved k m) (hhand.moved h.made hm) hrun hblind hplaced (stack_moved.trans hw) hv
  | ended h hw hv => exact .ended (h.moved k m) (task_moved_of_ended hw) hv
  | left h hstopped hw hv => exact .left (h.moved k m) (.inl hstopped) (task_moved_of_ended hw) hv

theorem Twins.request {c : Command} (h : Twins t n p w v) (hc : c.IsControl) :
    Twins t n (p ∨ .stopped n ∈ w.happenings (.request c)) (w.move (.request c)) v := by
  rcases move_request w c with hcarried | ⟨hw, -⟩
  · obtain ⟨k, m, hw, hm⟩ := hcarried.requested hc
    rw [hw]
    exact h.moved hm
  · rw [hw]
    exact h.mono .inl

theorem Alike.congr (h : Alike n w v) (hsessions : w'.sessions = w.sessions) (hhost : w'.host = w.host)
    (hregistry : w'.registry = w.registry) : Alike n w' v := by
  refine ⟨?_, hhost.trans h.host, hregistry.trans h.registry, hregistry ▸ h.blind, hsessions ▸ h.made, h.made'⟩
  rw [session_eq, hsessions]
  exact h.data

/-- Nothing changes for the runs. -/
theorem Twins.congr (h : Twins t n p w v) (hsessions : w'.sessions = w.sessions) (hhost : w'.host = w.host)
    (hregistry : w'.registry = w.registry) (hstacks : w'.allStacks = w.allStacks)
    (hended : ∀ o, w.task t = .ended o → w'.task t = .ended o) : Twins t n p w' v := by
  cases h with
  | along h hhand hrun hblind hplaced hw hv =>
      have hmachine : (w'.session n).machine = (w.session n).machine := by rw [session_eq, hsessions]; rfl
      refine .along (h.congr hsessions hhost hregistry) (hhand.congr hmachine rfl) hrun hblind hplaced ?_ hv
      rw [stack_eq, hstacks, ← stack_eq, hw]
  | ended h hw hv => exact .ended (h.congr hsessions hhost hregistry) (hended _ hw) hv
  | left h hstopped hw hv => exact .left (h.congr hsessions hhost hregistry) hstopped (hended _ hw) hv

theorem Twins.release (h : Twins t n p w v) (gate : String) : Twins t n p (w.move (.release gate)) v :=
  h.congr rfl rfl rfl (stacks_wake w (isAtGate gate)) fun _ => task_openGate_of_ended

end Requests

/-! ### Turns -/

section Turns

variable {p : Prop} {run run' : Run} {point : Point} {block : Block}

theorem stepAlone_boundary (hv : v.task t = .ready [⟨run, .boundary⟩]) : v.stepAlone t = v.step t := by
  rw [stepAlone, hv]

/-- The run goes on in both, and the machines stay as they are. -/
theorem Twins.goOn (h : Alike n w' v') (hhand : InHand n p w v) (hw : Changes w t n f s w')
    (hf : ∀ s, (f s).machine = s.machine) (hs : s.frames = [⟨run, point⟩])
    (hv : Changes v t n g (.ready [⟨run, point⟩]) v') (hg : ∀ s, (g s).machine = s.machine) (hrun : run.session = n)
    (hblind : point.IsBlind) (hplaced : Frame.IsPlaced ⟨run, point⟩) : Twins t n p w' v' := by
  refine .along h (hhand.congr (hw.machine hf) (hv.machine hg)) hrun hblind hplaced ?_ hv.task
  rw [stack, hw.task, hs]

/-- The run tells its observer of a block in both. -/
theorem Twins.told (h : Alike n w' v') (hhand : InHand n p w v) (hrun : run'.session = n)
    (hw : Changes w t n f (toldTask run [] (.ready [⟨run', .boundary⟩])) w') (hf : ∀ s, (f s).machine = s.machine)
    (hv : Changes v t n g (toldTask run [] (.ready [⟨run', .boundary⟩])) v') (hg : ∀ s, (g s).machine = s.machine) :
    Twins t n p w' v' := by
  unfold toldTask at hw hv
  cases hc : run.observer.failure? .progress with
  | some e =>
      rw [hc] at hw hv
      exact .ended h hw.task hv.task
  | none =>
      rw [hc] at hw hv
      exact Twins.goOn h hhand hw hf rfl hv hg hrun trivial (.inl rfl)

/-- At a boundary a run waits, leaves, or does what the other one does. -/
theorem Twins.boundary (h : Alike run.session w v) (hhand : InHand run.session p w v)
    (hw : w.task t = .ready [⟨run, .boundary⟩]) (hv : v.task t = .ready [⟨run, .boundary⟩]) :
    ∃ v', (v' = v ∨ v' = v.stepAlone t) ∧ Twins t run.session p (w.step t) v' := by
  by_cases hstopped : (w.session run.session).machine.phase = .stopped
  · have hleft := step_stops hw hstopped
    exact ⟨v, .inl rfl, .left (h.one hleft (Run.data_remember ..)) (hhand.stop hstopped) hleft.task hv⟩
  have hactive := Machine.isActive_of_isTaken hhand.taken fun h => hstopped (Machine.isStopRequested_iff.1 h)
  have hactive' : (v.session run.session).machine.isActive = true := by
    rw [Machine.isActive, hhand.running]
    rfl
  cases hblock : run.blocks[run.next]? with
  | none =>
      have hend := step_completes hw hblock hactive
      have hend' := step_completes hv hblock hactive'
      rw [← stepAlone_boundary hv] at hend'
      refine ⟨_, .inr rfl, .ended (h.both hend hend' ?_) hend.task hend'.task⟩
      rw [Run.data_remember, Run.data_remember]
      exact h.data
  | some block =>
      by_cases hpaused : (w.session run.session).machine.phase = .paused
      · have hwaits := step_pauses hw hblock hpaused
        have hhand' := hhand.congr (hwaits.machine fun _ => rfl) rfl
        have hblind : Point.boundary.IsBlind := trivial
        refine ⟨v, .inl rfl, .along (h.one hwaits rfl) hhand' rfl hblind (.inl rfl) ?_ hv⟩
        rw [stack, hwaits.task]
        rfl
      have hrunning := Machine.running_of_isTaken hhand.taken hpaused fun h =>
        hstopped (Machine.isStopRequested_iff.1 h)
      refine ⟨_, .inr rfl, ?_⟩
      rw [stepAlone_boundary hv]
      cases hdirective : block.isDirective with
      | true =>
          have hbegins := step_begins hw hblock hdirective hrunning
          have hbegins' := step_begins hv hblock hdirective hhand.running
          rw [h.registry] at hbegins
          exact .goOn (h.both hbegins hbegins' h.data) hhand hbegins (fun _ => rfl) rfl hbegins' (fun _ => rfl) rfl
            ((h.registry ▸ h.blind).dispatch _ _) (.inr ⟨block, hblock⟩)
      | false =>
          have hrecords := step_records hw hblock hdirective hrunning
          have hrecords' := step_records hv hblock hdirective hhand.running
          rw [h.registry] at hrecords
          have halike := h.both hrecords hrecords' (Session.record_congr h.data _)
          refine Twins.told halike hhand ?_ hrecords ?_ hrecords' ?_
          · rfl
          · exact fun _ => rfl
          · exact fun _ => rfl

/-- A step that makes its run go on within it leaves everything else as it is. -/
theorem stay_changes (ht : t < v.tasks.length) (run : Run) (outer : List Frame) (pending : List Message)
    (activity : Activity (List Message)) :
    Changes v t run.session id (.ready (⟨run, .working pending activity⟩ :: outer))
      (v.stay t run outer pending activity) :=
  Touches.setTask ⟨(Sessions.update_id ..).symm, rfl, rfl, rfl⟩ ht _

/-- A step that nobody hears does what it does while somebody does. -/
theorem Twins.command {c : Command} {pending : List Message} {next : Except Failure Answer → Activity (List Message)}
    (h : Alike run.session w v) (hhand : InHand run.session p w v)
    (hw : w.task t = .ready [⟨run, .working pending (.command c next)⟩])
    (hv : v.task t = .ready [⟨run, .working pending (.command c next)⟩])
    (hblind : (Activity.command c next).IsBlind) (hblock : run.blocks[run.next]? = some block) :
    Twins t run.session (p ∨ .stopped run.session ∈ w.turned t (w.step t)) (w.step t) (v.stepAlone t) := by
  obtain ⟨hc, hsame, hnext⟩ := hblind
  have hnorun : ∀ name text, c ≠ .run name text := by
    rintro name text rfl
    exact hc
  have ht := lt_length_of_ready w hw
  have hstay' := stay_changes (lt_length_of_ready v hv) run [] pending (next (.error (.noSession c.session)))
  have halone : v.stepAlone t = v.stay t run [] pending (next (.error (.noSession c.session))) := by
    rw [stepAlone, hv]
  rw [turned_command hw hnorun, step_working hw, stepActivity_command hnorun, halone]
  -- Whatever the answer is, the step goes on as after the one that it gets when nobody hears it.
  cases hcarry : w.carryOut c with
  | error e =>
      have hstay := stay_changes ht run [] pending (next (.error e))
      dsimp only
      rw [hsame (.error e) (.error (.noSession c.session))] at hstay ⊢
      exact .goOn (h.both hstay hstay' h.data) (hhand.mono .inl) hstay (fun _ => rfl) rfl hstay' (fun _ => rfl) rfl
        (hnext _) (.inr ⟨block, hblock⟩)
  | ok result =>
      obtain ⟨w', answer⟩ := result
      obtain ⟨k, m, rfl, hm⟩ := (carried_of_ok hcarry).requested hc
      have ht' : t < (w.moved k m).tasks.length := by
        rw [← length_stacks, stacks_moved, length_stacks]
        exact ht
      have hmoved := h.moved k m
      have hstay := stay_changes ht' run [] pending (next (.ok answer))
      dsimp only
      rw [hsame (.ok answer) (.error (.noSession c.session))] at hstay ⊢
      exact .goOn (hmoved.both hstay hstay' hmoved.data) (hhand.moved h.made hm) hstay (fun _ => rfl) rfl hstay'
        (fun _ => rfl) rfl (hnext _) (.inr ⟨block, hblock⟩)

/-- Within a step the run does what the other one does. -/
theorem Twins.working {pending : List Message} {activity : Activity (List Message)} (h : Alike run.session w v)
    (hhand : InHand run.session p w v) (hw : w.task t = .ready [⟨run, .working pending activity⟩])
    (hv : v.task t = .ready [⟨run, .working pending activity⟩]) (hblind : activity.IsBlind)
    (hblock : run.blocks[run.next]? = some block) :
    Twins t run.session (p ∨ .stopped run.session ∈ w.turned t (w.step t)) (w.step t) (v.stepAlone t) := by
  cases activity with
  | command c next => exact .command h hhand hw hv hblind hblock
  | finish result =>
      have halone : v.stepAlone t = v.step t := by rw [stepAlone, hv]
      rw [halone]
      refine Twins.mono ?_ .inl
      cases result with
      | ok messages =>
          have hends := step_succeeds hw hblock
          have hends' := step_succeeds hv hblock
          refine Twins.told (h.both hends hends' (Session.record_congr h.data _)) hhand ?_ hends ?_ hends' ?_
          · rfl
          · exact fun _ => rfl
          · exact fun _ => rfl
      | error e =>
          have hends := step_fails hw hblock hhand.taken
          have hends' := step_fails hv hblock (by rw [hhand.running]; rfl)
          refine .ended (h.both hends hends' ?_) hends.task hends'.task
          rw [Run.data_remember, Run.data_remember]
          exact Session.record_congr h.data pending
  | work piece next =>
      have halone : v.stepAlone t = v.step t := by rw [stepAlone, hv]
      rw [halone]
      cases hwork : piece.run (run.api (w.session run.session) w.host pending) with
      | mk result api =>
          have hwork' : piece.run (run.api (v.session run.session) v.host pending) = (result, api) := by
            rw [← hwork, ← h.host, run.api_congr h.data]
          obtain ⟨hworks, hhost⟩ := step_works hw hwork
          obtain ⟨hworks', hhost'⟩ := step_works hv hwork'
          have hsame := h.both hworks hworks' rfl
          have hhosts : (w.step t).host = (v.step t).host := by rw [hhost, hhost', h.host]
          have hhand' : InHand run.session p (w.step t) (v.step t) :=
            hhand.congr (hworks.machine fun _ => rfl) (hworks'.machine fun _ => rfl)
          have halike : Alike run.session (w.step t) (v.step t) :=
            ⟨hsame.data, hhosts, hsame.registry, hsame.blind, hsame.made, hsame.made'⟩
          have hnext : Point.IsBlind (.working api.pending (next result)) := hblind result
          exact Twins.mono (p := p) (.along halike hhand' rfl hnext (.inr ⟨block, hblock⟩)
            (congrArg TaskState.frames hworks.task) hworks'.task) .inl
  | wait gate next =>
      have halone : v.stepAlone t = v.stay t run [] pending next := by rw [stepAlone, hv]
      have hwaits := step_waits hw
      have hstay' := stay_changes (lt_length_of_ready v hv) run [] pending next
      rw [halone]
      exact .goOn (h.both hwaits hstay' h.data) (hhand.mono .inl) hwaits (fun _ => rfl) rfl hstay' (fun _ => rfl) rfl
        hblind (.inr ⟨block, hblock⟩)

theorem Twins.turn (h : Twins t n p w v) :
    ∃ v', (v' = v ∨ v' = v.stepAlone t) ∧ Twins t n (p ∨ .stopped n ∈ w.turned t (w.step t)) (w.step t) v' := by
  have hrests : w.step t = { w with turns := w.turns.filter (· ≠ t) } →
      ∃ v', (v' = v ∨ v' = v.stepAlone t) ∧ Twins t n (p ∨ .stopped n ∈ w.turned t (w.step t)) (w.step t) v' := by
    intro hstep
    have hsame : Twins t n p (w.step t) v := by
      rw [hstep]
      exact h.congr rfl rfl rfl rfl fun _ => id
    exact ⟨v, .inl rfl, hsame.mono .inl⟩
  cases hw : w.task t with
  | atGate | paused | ended => exact hrests (by rw [step, hw])
  | ready frames =>
      cases h with
      | ended h hended hv =>
          rw [hw] at hended
          cases hended
      | left h hstopped hended hv =>
          rw [hw] at hended
          cases hended
      | @along run point h hhand hrun hblind hplaced hstack hv =>
          rw [stack_of_ready hw] at hstack
          subst hrun hstack
          cases point with
          | boundary =>
              obtain ⟨v', hv', hboundary⟩ := Twins.boundary h hhand hw hv
              exact ⟨v', hv', hboundary.mono .inl⟩
          | working pending activity =>
              obtain ⟨block, hblock⟩ := hplaced.resolve_left Point.noConfusion
              exact ⟨_, .inr rfl, .working h hhand hw hv hblind hblock⟩
          | awaiting pending next => exact absurd hblind id

/-- A move around the interrupted run is at most one step of the other one. -/
theorem Twins.move {m : Move} (h : Twins t n p w v) (hm : m.Interrupts t) :
    ∃ v', (v' = v ∨ v' = v.stepAlone t) ∧ Twins t n (p ∨ .stopped n ∈ w.happenings m) (w.move m) v' := by
  cases hm with
  | turn => exact h.turn
  | release => exact ⟨v, .inl rfl, (h.release _).mono .inl⟩
  | request hc => exact ⟨v, .inl rfl, h.request hc⟩

end Turns

/-! ### Whole runs -/

theorem Twins.after {p : Prop} {ms : List Move} (h : Twins t n p w v) (hms : ∀ m ∈ ms, m.Interrupts t) :
    ∃ j, Twins t n (p ∨ .stopped n ∈ w.chronicle ms) (w.after ms) (v.alone t j) := by
  induction ms generalizing p w v with
  | nil => exact ⟨0, h.mono .inl⟩
  | cons m ms ih =>
      -- The stops so far are part of the relation, so the hypothesis is for whatever was stopped before.
      obtain ⟨v', hv', hmove⟩ := h.move (hms m List.mem_cons_self)
      obtain ⟨j, hafter⟩ := ih hmove fun m' hm' => hms m' (List.mem_cons_of_mem _ hm')
      have hrest := hafter.mono (q := p ∨ .stopped n ∈ w.chronicle (m :: ms)) <| by
        rw [chronicle, List.mem_append, or_assoc]
        exact id
      rcases hv' with rfl | rfl
      · exact ⟨j, hrest⟩
      · exact ⟨j + 1, hrest⟩

/-- A run that was started is its own twin. -/
theorem twins_start {o : Order} {run : Run} (hids : w.sessions.IsNumbered) (hskills : w.registry.IsBlind)
    (hrun : (w.enter o).2 = .ok run) :
    Twins w.tasks.length run.session False (w.move (.start o)) (w.move (.start o)) := by
  obtain ⟨htask, hmade, hphase, hregistry, -⟩ := start_ready hids hrun
  have hblind : Point.boundary.IsBlind := trivial
  refine .along ⟨rfl, rfl, rfl, hregistry ▸ hskills, hmade, hmade⟩ ⟨?_, hphase, ?_⟩ rfl hblind (.inl rfl)
    (stack_of_ready htask) htask
  · exact (congrArg Phase.isTaken hphase).trans rfl
  · intro hstopped
    cases hphase.symm.trans hstopped

/-- After the history `ms` the run of task `t` on session `n` has done what it does when nobody interrupts it: all of it,
with the same outcome, or, if a stop was accepted, what comes before some block, where it left. -/
def Resembles (w : Workbench) (t n : Nat) (ms : List Move) (outcome : Outcome) : Prop :=
  ∃ j, ((w.after ms).session n).data = ((w.alone t j).session n).data ∧
    ((w.alone t j).task t = .ended outcome ∨
      .stopped n ∈ w.chronicle ms ∧ ∃ run : Run, (w.alone t j).task t = .ready [⟨run, .boundary⟩] ∧
        outcome = .report (run.report .stopped .idle))

theorem Twins.resembles {ms : List Move} {outcome : Outcome} (h : Twins t n False w w)
    (hms : ∀ m ∈ ms, m.Interrupts t) (hend : (w.after ms).task t = .ended outcome) : Resembles w t n ms outcome := by
  obtain ⟨j, htwins⟩ := h.after hms
  refine ⟨j, ?_⟩
  cases htwins with
  | along h hhand hrun hblind hplaced hw hv =>
      rw [stack, hend] at hw
      cases hw
  | ended h hw hv =>
      cases hend.symm.trans hw
      exact ⟨h.data, .inl hv⟩
  | left h hstopped hw hv =>
      cases hend.symm.trans hw
      exact ⟨h.data, .inr ⟨hstopped.resolve_left id, _, hv, rfl⟩⟩

/-- A run that was started does the same however it is paused, resumed and stopped on its way. -/
theorem after_interrupted {o : Order} {run : Run} {ms : List Move} {outcome : Outcome}
    (hids : w.sessions.IsNumbered) (hskills : w.registry.IsBlind) (hrun : (w.enter o).2 = .ok run)
    (hms : ∀ m ∈ ms, m.Interrupts w.tasks.length)
    (hend : ((w.move (.start o)).after ms).task w.tasks.length = .ended outcome) :
    Resembles (w.move (.start o)) w.tasks.length run.session ms outcome :=
  (twins_start hids hskills hrun).resembles hms hend

/-- A step waits while its run is stopped; the run leaves after the step. -/
theorem held_interrupted :
    ∃ run outcome, Held.bench.sessions.IsNumbered ∧ Held.bench.registry.IsBlind ∧
      (Held.bench.enter Held.order).2 = .ok run ∧ (∀ m ∈ Held.moves (.stop "s"), m.Interrupts Held.bench.tasks.length) ∧
      ((Held.bench.move (.start Held.order)).after (Held.moves (.stop "s"))).task Held.bench.tasks.length =
        .ended outcome ∧
      Resembles (Held.bench.move (.start Held.order)) Held.bench.tasks.length run.session (Held.moves (.stop "s"))
        outcome := by
  have hids : Held.bench.sessions.IsNumbered := fun p hp => absurd hp List.not_mem_nil
  have hms := Held.interrupts (c := .stop "s") trivial
  have hentered : (Held.bench.enter Held.order).2.toBool = true := by decide +kernel
  have hover : (((Held.bench.move (.start Held.order)).after (Held.moves (.stop "s"))).task
      Held.bench.tasks.length).isOver = true := by decide +kernel
  obtain ⟨run, hrun⟩ : ∃ run, (Held.bench.enter Held.order).2 = .ok run := by
    cases hresult : (Held.bench.enter Held.order).2 with
    | ok run => exact ⟨run, rfl⟩
    | error f =>
        rw [hresult] at hentered
        cases hentered
  obtain ⟨outcome, hend⟩ := TaskState.eq_ended_of_isOver hover
  exact ⟨run, outcome, hids, Held.skills_isBlind, hrun, hms, hend,
    after_interrupted hids Held.skills_isBlind hrun hms hend⟩

/-! ### Interleavings of one run -/

theorem alone_add (i j : Nat) : v.alone t (i + j) = (v.alone t i).alone t j := by
  induction i generalizing v with
  | zero => rw [Nat.zero_add]; rfl
  | succ i ih =>
      rw [Nat.succ_add]
      exact ih

theorem alone_of_ended {o : Outcome} (hv : v.task t = .ended o) (j : Nat) :
    (v.alone t j).task t = .ended o ∧ (v.alone t j).sessions = v.sessions := by
  induction j generalizing v with
  | zero => exact ⟨hv, rfl⟩
  | succ j ih =>
      have hstep : v.stepAlone t = { v with turns := v.turns.filter (· ≠ t) } := by
        unfold stepAlone step
        simp only [hv]
      have hv' : (v.stepAlone t).task t = .ended o := by
        rw [hstep]
        exact hv
      obtain ⟨htask, hsessions⟩ := ih hv'
      exact ⟨htask, hsessions.trans (by rw [hstep])⟩

/-- A run that nobody interrupts comes to one end. -/
theorem alone_ended_unique {i j : Nat} {o o' : Outcome} (hi : (v.alone t i).task t = .ended o)
    (hj : (v.alone t j).task t = .ended o') : o = o' ∧ (v.alone t i).sessions = (v.alone t j).sessions := by
  have hle : ∀ {i j : Nat} {o o' : Outcome}, i ≤ j → (v.alone t i).task t = .ended o →
      (v.alone t j).task t = .ended o' → o = o' ∧ (v.alone t i).sessions = (v.alone t j).sessions := by
    intro i j o o' hij hi hj
    obtain ⟨d, rfl⟩ := Nat.exists_eq_add_of_le hij
    obtain ⟨htask, hsessions⟩ := alone_of_ended hi d
    rw [← alone_add] at htask hsessions
    cases htask.symm.trans hj
    exact ⟨rfl, hsessions.symm⟩
  rcases Nat.le_total i j with hij | hji
  · exact hle hij hi hj
  · obtain ⟨ho, hsessions⟩ := hle hji hj hi
    exact ⟨ho.symm, hsessions.symm⟩

/-- All interleavings of a run that nobody stops come to the same outcome. -/
theorem after_interrupted_unique {o : Order} {run : Run} {ms ms' : List Move} {outcome outcome' : Outcome}
    (hids : w.sessions.IsNumbered) (hskills : w.registry.IsBlind) (hrun : (w.enter o).2 = .ok run)
    (hms : ∀ m ∈ ms, m.Interrupts w.tasks.length) (hms' : ∀ m ∈ ms', m.Interrupts w.tasks.length)
    (hstop : .stopped run.session ∉ (w.move (.start o)).chronicle ms)
    (hstop' : .stopped run.session ∉ (w.move (.start o)).chronicle ms')
    (hend : ((w.move (.start o)).after ms).task w.tasks.length = .ended outcome)
    (hend' : ((w.move (.start o)).after ms').task w.tasks.length = .ended outcome') :
    outcome = outcome' ∧ (((w.move (.start o)).after ms).session run.session).data =
      (((w.move (.start o)).after ms').session run.session).data := by
  have htwins := twins_start hids hskills hrun
  obtain ⟨i, hdata, hi⟩ := htwins.resembles hms hend
  obtain ⟨j, hdata', hj⟩ := htwins.resembles hms' hend'
  have hsame := alone_ended_unique (hi.resolve_right fun h => hstop h.1) (hj.resolve_right fun h => hstop' h.1)
  refine ⟨hsame.1, ?_⟩
  rw [hdata, hdata', session_eq, hsame.2]
  rfl

end Workbench

end Playbook
