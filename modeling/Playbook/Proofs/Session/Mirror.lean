import Playbook.Proofs.Session.Consistency
import Playbook.Proofs.Skill.Likeness
/-!
# Runs that mirror each other

A run depends on what it sees of its session, on the skills and on the host, and on nothing else. So a run through the
same blocks of another session that looks alike, be it in the same workbench or in another one, does the same turn by
turn: `Mirrors` holds of two such runs, and every move that is made by both keeps it. The skills must not give commands,
for the sessions around the two may differ.
-/

namespace Playbook

/-! ### What a run sees -/

/-- The sessions look the same to their runs. -/
structure Session.Like (s s' : Session) : Prop where
  contexts : s.contexts = s'.contexts
  bindings : s.bindings = s'.bindings
  highlights : s.highlights = s'.highlights
  phase : s.machine.phase = s'.machine.phase
  client : s.client.map Client.still = s'.client.map Client.still

/-- The run as one of another session. -/
def Run.inSession (run : Run) (m : Nat) : Run := { run with session := m }

section Like

variable {s s' : Session} {hosted : Bool}

theorem Session.Like.record (h : s.Like s') (messages : List Message) :
    (s.record messages).Like (s'.record messages) :=
  ⟨congrArg (·.extend messages) h.contexts, h.bindings, h.highlights, h.phase, h.client⟩

theorem Session.Like.setMachine (h : s.Like s') (highlights : Highlights) {m m' : Machine}
    (hphase : m.phase = m'.phase) :
    Session.Like { s with highlights := highlights, machine := m }
      { s' with highlights := highlights, machine := m' } :=
  ⟨h.contexts, h.bindings, rfl, hphase, h.client⟩

theorem Session.Like.remember (h : s.Like s') (run run' : Run) (result result' : Except Failure RunReport) :
    (run.remember result s).Like (run'.remember result' s') := by
  obtain ⟨last, hlast⟩ := run.remember_eq result s
  obtain ⟨last', hlast'⟩ := run'.remember_eq result' s'
  rw [hlast, hlast']
  exact ⟨h.contexts, h.bindings, h.highlights, h.phase, h.client⟩

theorem Session.Like.api (h : s.Like s') {host host' : Host} (hhost : hosted = true → host = host') (run : Run)
    (m : Nat) (pending : List Message) :
    (run.api s host pending).Like hosted ((run.inSession m).api s' host' pending) where
  contexts := h.contexts
  bindings := h.bindings
  client := h.client
  host htrue := by
    rw [hhost htrue]
    rfl
  pending := rfl
  blocks := rfl
  index := rfl
  root := rfl

theorem Api.Like.session {a b : Api} (h : a.Like hosted b) (hs : s.Like s') :
    (Run.sessionAfter s a).Like (Run.sessionAfter s' b) :=
  ⟨h.contexts, h.bindings, hs.highlights, hs.phase, h.client⟩

theorem Run.hostAfter_inSession {a b : Api} {host host' : Host} (run : Run) (m : Nat) (hhost : host = host')
    (h : a.host = b.host) : run.hostAfter host a = (run.inSession m).hostAfter host' b := by
  unfold hostAfter
  rw [h, hhost]
  rfl

end Like

/-! ### Runs that keep to their session -/

/-- What is left of a step gives no commands. -/
def Point.Confined (works : Work Product → Prop) : Point → Prop
  | .boundary => True
  | .working _ activity => activity.Confined works
  | .awaiting .. => False

/-- Neither the step in progress nor those of the playbook give commands. -/
structure Frame.IsConfined (r : Registry) (works : Work Product → Prop) (f : Frame) : Prop where
  playbook : r.Confines works f.run.blocks
  point : f.point.Confined works

/-- Where the innermost run of a task stands: it may go on, or waits at a gate. -/
def TaskState.standing (gate? : Option String) (frames : List Frame) : TaskState :=
  match gate? with
  | none => .ready frames
  | some gate => .atGate gate frames

/-- The task with its runs as runs of another session. -/
def TaskState.inSession (m : Nat) : TaskState → TaskState
  | ready frames => ready (frames.map fun f => { f with run := f.run.inSession m })
  | atGate gate frames => atGate gate (frames.map fun f => { f with run := f.run.inSession m })
  | paused _ frames => paused m (frames.map fun f => { f with run := f.run.inSession m })
  | ended outcome => ended outcome

namespace Workbench

/-! ### Two workbenches -/

/-- A run of session `n` in `w` sees what a run of session `m` in `v` sees. -/
structure Beside (hosted : Bool) (w : Workbench) (n : Nat) (v : Workbench) (m : Nat) : Prop where
  session : (w.session n).Like (v.session m)
  host : hosted = true → w.host = v.host
  registry : w.registry = v.registry
  made : n < w.sessions.made.length
  made' : m < v.sessions.made.length

/-- The run of task `t` on session `n` in `w` does what the run of task `u` on session `m` in `v` does. -/
inductive Mirrors (hosted : Bool) (w : Workbench) (t n : Nat) (v : Workbench) (u m : Nat) : Prop
  | going {run : Run} {point : Point} (gate? : Option String) (h : Beside hosted w n v m)
      (hrunning : (w.session n).machine.phase = .running) (hrun : run.session = n)
      (hconfined : Frame.IsConfined w.registry (Work.Respects hosted) ⟨run, point⟩)
      (hplaced : Frame.IsPlaced ⟨run, point⟩) (hw : w.task t = .standing gate? [⟨run, point⟩])
      (hv : v.task u = .standing gate? [⟨run.inSession m, point⟩])
  | ended {outcome : Outcome} (h : Beside hosted w n v m) (hw : w.task t = .ended outcome)
      (hv : v.task u = .ended outcome)

variable {hosted : Bool} {w w' v v' : Workbench} {t n u m : Nat} {f g : Session → Session} {s s' : TaskState}
  {run run' : Run} {point : Point}

theorem Beside.both (h : Beside hosted w n v m) (hw : Changes w t n f s w') (hv : Changes v u m g s' v')
    (hlike : (f (w.session n)).Like (g (v.session m))) : Beside hosted w' n v' m where
  session := by
    rw [hw.session h.made, hv.session h.made']
    exact hlike
  host hosted := by rw [hw.host, hv.host, h.host hosted]
  registry := by rw [hw.registry, hv.registry, h.registry]
  made := by
    rw [hw.sessions, Sessions.length_made_update]
    exact h.made
  made' := by
    rw [hv.sessions, Sessions.length_made_update]
    exact h.made'

/-! ### Turns -/

/-- The run goes on in both. -/
theorem Mirrors.goOn (h : Beside hosted w n v m) (hrunning : (w.session n).machine.phase = .running)
    (hw : Changes w t n f (.ready [⟨run, point⟩]) w') (hv : Changes v u m g (.ready [⟨run.inSession m, point⟩]) v')
    (hlike : (f (w.session n)).Like (g (v.session m))) (hf : ∀ s, (f s).machine = s.machine) (hrun : run.session = n)
    (hconfined : Frame.IsConfined w.registry (Work.Respects hosted) ⟨run, point⟩)
    (hplaced : Frame.IsPlaced ⟨run, point⟩) : Mirrors hosted w' t n v' u m := by
  have hmachine := hw.machine hf
  exact .going none (h.both hw hv hlike) (hmachine ▸ hrunning) hrun (hw.registry.symm ▸ hconfined) hplaced
    hw.task hv.task

/-- The run tells its observer of a block in both. -/
theorem Mirrors.told (h : Beside hosted w n v m) (hrunning : (w.session n).machine.phase = .running)
    (hw : Changes w t n f (toldTask run [] (.ready [⟨run', .boundary⟩])) w')
    (hv : Changes v u m g (toldTask run [] (.ready [⟨run'.inSession m, .boundary⟩])) v')
    (hlike : (f (w.session n)).Like (g (v.session m))) (hf : ∀ s, (f s).machine = s.machine) (hrun : run'.session = n)
    (hconfined : Frame.IsConfined w.registry (Work.Respects hosted) ⟨run', .boundary⟩) :
    Mirrors hosted w' t n v' u m := by
  unfold toldTask at hw hv
  cases hc : run.observer.failure? .progress with
  | some e =>
      rw [hc] at hw hv
      exact .ended (h.both hw hv hlike) hw.task hv.task
  | none =>
      rw [hc] at hw hv
      exact .goOn h hrunning hw hv hlike hf hrun hconfined (.inl rfl)

/-- A run that nobody stopped or paused completes, or begins with the next block. -/
theorem Mirrors.boundary (h : Beside hosted w run.session v m)
    (hrunning : (w.session run.session).machine.phase = .running)
    (hconfined : Frame.IsConfined w.registry (Work.Respects hosted) ⟨run, .boundary⟩)
    (hw : w.task t = .ready [⟨run, .boundary⟩]) (hv : v.task u = .ready [⟨run.inSession m, .boundary⟩]) :
    Mirrors hosted (w.step t) t run.session (v.step u) u m := by
  have hrunning' : (v.session (run.inSession m).session).machine.phase = .running := h.session.phase.symm.trans hrunning
  cases hblock : run.blocks[run.next]? with
  | none =>
      have hends := step_completes hw hblock (by rw [Machine.isActive, hrunning]; rfl)
      have hends' := step_completes hv hblock (by rw [Machine.isActive, hrunning']; rfl)
      refine .ended (h.both hends hends' ?_) hends.task hends'.task
      refine Session.Like.remember ?_ _ _ _ _
      exact h.session.setMachine .none rfl
  | some block =>
      cases hdirective : block.isDirective with
      | true =>
          have hbegins := step_begins hw hblock hdirective hrunning
          have hbegins' := step_begins hv hblock hdirective hrunning'
          rw [← h.registry] at hbegins'
          refine .goOn h hrunning hbegins hbegins' ?_ (fun _ => rfl) rfl ⟨hconfined.playbook, ?_⟩
            (.inr ⟨block, hblock⟩)
          · exact h.session.setMachine _ h.session.phase
          · exact hconfined.playbook block (List.mem_of_getElem? hblock) hdirective
      | false =>
          have hrecords := step_records hw hblock hdirective hrunning
          have hrecords' := step_records hv hblock hdirective hrunning'
          rw [← h.registry] at hrecords'
          exact .told h hrunning hrecords hrecords' (h.session.record _) (fun _ => rfl) rfl
            ⟨hconfined.playbook, trivial⟩

/-- A step goes on in the same way. -/
theorem Mirrors.working {pending : List Message} {activity : Activity (List Message)}
    (h : Beside hosted w run.session v m) (hrunning : (w.session run.session).machine.phase = .running)
    (hconfined : Frame.IsConfined w.registry (Work.Respects hosted) ⟨run, .working pending activity⟩)
    {block : Block} (hblock : run.blocks[run.next]? = some block)
    (hw : w.task t = .ready [⟨run, .working pending activity⟩])
    (hv : v.task u = .ready [⟨run.inSession m, .working pending activity⟩]) :
    Mirrors hosted (w.step t) t run.session (v.step u) u m := by
  have hrunning' : (v.session (run.inSession m).session).machine.phase = .running := h.session.phase.symm.trans hrunning
  cases activity with
  | command c next => exact absurd hconfined.point id
  | finish result =>
      cases result with
      | ok messages =>
          exact .told h hrunning (step_succeeds hw hblock) (step_succeeds hv hblock) (h.session.record _) (fun _ => rfl)
            rfl ⟨hconfined.playbook, trivial⟩
      | error e =>
          have hends := step_fails hw hblock (by rw [hrunning]; rfl)
          have hends' := step_fails hv hblock (by rw [hrunning']; rfl)
          refine .ended (h.both hends hends' ?_) hends.task hends'.task
          refine Session.Like.remember ?_ _ _ _ _
          exact (h.session.record pending).setMachine _ rfl
  | wait gate next =>
      have hwaits := step_waits hw
      have hwaits' := step_waits hv
      have hmachine := hwaits.machine fun _ => rfl
      exact .going (some gate) (h.both hwaits hwaits' h.session) (hmachine ▸ hrunning) rfl
        (hwaits.registry.symm ▸ ⟨hconfined.playbook, hconfined.point⟩) (.inr ⟨block, hblock⟩) hwaits.task hwaits'.task
  | work piece next =>
      rcases hwork : piece.run (run.api (w.session run.session) w.host pending) with ⟨result, api⟩
      rcases hwork' : piece.run ((run.inSession m).api (v.session m) v.host pending) with ⟨result', api'⟩
      obtain ⟨hresult, hlike⟩ := hconfined.point.1 _ _ (h.session.api h.host run m pending)
      rw [hwork, hwork'] at hresult hlike
      obtain rfl : result = result' := hresult
      obtain ⟨hworks, hhost⟩ := step_works hw hwork
      obtain ⟨hworks', hhost'⟩ := step_works hv hwork'
      have hboth := h.both hworks hworks' (hlike.session h.session)
      have hmachine := hworks.machine fun _ => rfl
      have htask : (v.step u).task u = .ready [⟨run.inSession m, .working api.pending (next result)⟩] := by
        rw [hlike.pending]
        exact hworks'.task
      refine .going none ⟨hboth.session, fun htrue => ?_, hboth.registry, hboth.made, hboth.made'⟩
        (hmachine ▸ hrunning) rfl (hworks.registry.symm ▸ ⟨hconfined.playbook, hconfined.point.2 result⟩)
        (.inr ⟨block, hblock⟩) hworks.task htask
      rw [hhost, hhost']
      exact run.hostAfter_inSession m (h.host htrue) (hlike.host htrue)

/-- Both take their turn. -/
theorem Mirrors.turn (h : Mirrors hosted w t n v u m) : Mirrors hosted (w.step t) t n (v.step u) u m := by
  cases h with
  | ended h hw hv =>
      have hrests : w.step t = { w with turns := w.turns.filter (· ≠ t) } := by rw [step, hw]
      have hrests' : v.step u = { v with turns := v.turns.filter (· ≠ u) } := by rw [step, hv]
      rw [hrests, hrests']
      exact .ended ⟨h.session, h.host, h.registry, h.made, h.made'⟩ hw hv
  | @going run point gate? h hrunning hrun hconfined hplaced hw hv =>
      subst hrun
      cases gate? with
      | some gate =>
          have hrests : w.step t = { w with turns := w.turns.filter (· ≠ t) } := by
            rw [step, hw]
            rfl
          have hrests' : v.step u = { v with turns := v.turns.filter (· ≠ u) } := by
            rw [step, hv]
            rfl
          rw [hrests, hrests']
          exact .going (some gate) ⟨h.session, h.host, h.registry, h.made, h.made'⟩ hrunning rfl hconfined hplaced hw hv
      | none =>
          cases point with
          | boundary => exact .boundary h hrunning hconfined hw hv
          | working pending activity =>
              obtain ⟨block, hblock⟩ := hplaced.resolve_left Point.noConfusion
              exact .working h hrunning hconfined hblock hw hv
          | awaiting pending next => exact absurd hconfined.point id

/-! ### Other moves -/

theorem task_release (w : Workbench) (gate : String) (t : Nat) :
    (w.move (.release gate)).task t =
      if isAtGate gate (w.task t) then .ready (w.task t).frames else w.task t := task_wake w t _ rfl

/-- A gate is opened for both. -/
theorem Mirrors.release (h : Mirrors hosted w t n v u m) (gate : String) :
    Mirrors hosted (w.move (.release gate)) t n (v.move (.release gate)) u m := by
  have htask := task_release w gate t
  have htask' := task_release v gate u
  have hbeside : Beside hosted w n v m → Beside hosted (w.move (.release gate)) n (v.move (.release gate)) m :=
    fun h => ⟨h.session, h.host, h.registry, h.made, h.made'⟩
  cases h with
  | ended h hw hv =>
      rw [hw] at htask
      rw [hv] at htask'
      exact .ended (hbeside h) htask htask'
  | @going run point gate? h hrunning hrun hconfined hplaced hw hv =>
      rw [hw] at htask
      rw [hv] at htask'
      cases gate? with
      | none => exact .going none (hbeside h) hrunning hrun hconfined hplaced htask htask'
      | some gate' =>
          by_cases hgate : (gate' == gate) = true
          · have hopens : ∀ frames, isAtGate gate (.standing (some gate') frames) = true := fun _ => hgate
            rw [if_pos (hopens _)] at htask htask'
            exact .going none (hbeside h) hrunning hrun hconfined hplaced htask htask'
          · have hstays : ∀ frames, ¬isAtGate gate (.standing (some gate') frames) = true := fun _ => hgate
            rw [if_neg (hstays _)] at htask htask'
            exact .going (some gate') (hbeside h) hrunning hrun hconfined hplaced htask htask'

/-- Something happens in one of them that is of no concern to the run. -/
theorem Mirrors.elsewhere (h : Mirrors hosted w t n v u m) (hsession : w'.session n = w.session n)
    (hmade : n < w'.sessions.made.length) (hhost : hosted = true → w'.host = w.host)
    (hregistry : w'.registry = w.registry) (htask : w'.task t = w.task t) : Mirrors hosted w' t n v u m := by
  have hbeside : Beside hosted w n v m → Beside hosted w' n v m := fun h =>
    ⟨hsession ▸ h.session, fun htrue => (hhost htrue).trans (h.host htrue), hregistry.trans h.registry, hmade, h.made'⟩
  cases h with
  | ended h hw hv => exact .ended (hbeside h) (htask.trans hw) hv
  | going gate? h hrunning hrun hconfined hplaced hw hv =>
      exact .going gate? (hbeside h) (hsession ▸ hrunning) hrun (hregistry ▸ hconfined) hplaced (htask.trans hw) hv

/-! ### Runs by themselves -/

end Workbench

end Playbook
