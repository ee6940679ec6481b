import Playbook.Proofs.Session.Tenure
/-!
# What others notice of a move

An observer hears of the end of a run in the step in which the run completes, and at no other time. Everything else that
a host does is silent in this respect, and neither the settings nor the model client of new sessions ever change. Of the
tasks at most the one that moves changes, but for those that may go on after a pause.
-/

namespace Playbook

/-- A task that does not move stays as it is, or may go on after a pause. -/
inductive TaskState.Spared : TaskState → TaskState → Prop
  | same {s : TaskState} : Spared s s
  | woken {n : Nat} {frames : List Frame} : Spared (.paused n frames) (.ready frames)

theorem TaskState.Spared.trans {s s' s'' : TaskState} (h : Spared s s') (h' : Spared s' s'') : Spared s s'' := by
  cases h with
  | same => exact h'
  | woken =>
      cases h'
      exact .woken

namespace Workbench

/-- Observers hear `k` times that a run is completed, and no task moves but `mover`. -/
structure Announces (k : Nat) (mover : Option Nat) (w w' : Workbench) : Prop where
  settings : w'.settings = w.settings
  client : w'.client = w.client
  count : w'.log.count .complete = w.log.count .complete + k
  length_le : w.tasks.length ≤ w'.tasks.length
  others : ∀ u, u < w.tasks.length → mover ≠ some u → (w.task u).Spared (w'.task u)

variable {w v w' : Workbench} {t n j k : Nat} {mover : Option Nat} {run : Run} {outer : List Frame}

theorem announces_of_tasks (hsettings : w'.settings = w.settings) (hclient : w'.client = w.client)
    (hcount : w'.log.count .complete = w.log.count .complete + k) (htasks : w'.tasks = w.tasks) :
    Announces k mover w w' where
  settings := hsettings
  client := hclient
  count := hcount
  length_le := Nat.le_of_eq (congrArg List.length htasks.symm)
  others u _ _ := by
    rw [task, task, htasks]
    exact .same

theorem announces_refl (w : Workbench) : Announces 0 mover w w := announces_of_tasks rfl rfl rfl rfl

theorem Announces.trans (h : Announces j mover w v) (h' : Announces k mover v w') : Announces (j + k) mover w w' where
  settings := h'.settings.trans h.settings
  client := h'.client.trans h.client
  count := by rw [h'.count, h.count, Nat.add_assoc]
  length_le := Nat.le_trans h.length_le h'.length_le
  others u hu hut := (h.others u hu hut).trans (h'.others u (Nat.lt_of_lt_of_le hu h.length_le) hut)

theorem Announces.silent (h : Announces k mover w v) (h' : Announces 0 mover v w') : Announces k mover w w' :=
  h.trans h'

/-- Whose turn it is and what is waited for does not count. -/
theorem Announces.congr (h : Announces k mover w v) (hsettings : w'.settings = v.settings)
    (hclient : w'.client = v.client) (hlog : w'.log = v.log) (htasks : w'.tasks = v.tasks) : Announces k mover w w' :=
  h.silent (announces_of_tasks hsettings hclient (by rw [hlog, Nat.add_zero]) htasks)

theorem Announces.setTask (h : Announces k (some t) w v) (s : TaskState) : Announces k (some t) w (v.setTask t s) := by
  refine h.silent ⟨rfl, rfl, rfl, Nat.le_of_eq List.length_set.symm, fun u hu hut => ?_⟩
  have hsame : (v.setTask t s).task u = v.task u := by
    simp only [task, Workbench.setTask, List.getD_eq_getElem?_getD,
      List.getElem?_set_ne fun htu => hut (congrArg some htu)]
  rw [hsame]
  exact .same

/-! ### Small operations -/

theorem announces_note {es : List Event} (h : es.count .complete = k) : Announces k mover w (w.note es) :=
  announces_of_tasks rfl rfl (by rw [← h]; exact List.count_append) rfl

theorem announces_setSession {changed : Session × List Event} (h : changed.2.count .complete = 0) :
    Announces 0 mover w (w.setSession n changed) :=
  have hnote : Announces 0 mover w (w.note changed.2) := announces_note h
  announces_of_tasks rfl rfl hnote.count rfl

theorem count_noted (s : Session) {e : Event} (h : e ≠ .complete) : (s.noted e).count .complete = 0 := by
  unfold Session.noted
  split
  · rw [List.count_singleton, if_neg (by simpa using h)]
  · rfl

theorem announces_highlight (w : Workbench) (n : Nat) (e : HighlightEvent) : Announces 0 mover w (w.highlight n e) :=
  announces_setSession (count_noted _ Event.noConfusion)

theorem announces_wake (w : Workbench) (n : Nat) : Announces 0 mover w (w.wake (isPausedIn n)) where
  settings := rfl
  client := rfl
  count := rfl
  length_le := Nat.le_of_eq (List.length_map _).symm
  others u _ _ := by
    rw [task_wake _ _ _ rfl]
    split
    · rename_i hmet
      cases hs : w.task u with
      | paused m frames => exact .woken
      | ready | atGate | ended =>
          rw [hs] at hmet
          cases hmet
    · exact .same

theorem announces_moved (w : Workbench) (n : Nat) (m : Machine) : Announces 0 mover w (w.moved n m) := by
  have hset : Announces 0 mover w (w.setSession n ((w.session n).move m)) := by
    refine announces_setSession ?_
    unfold Session.move
    dsimp only
    split
    · exact count_noted _ Event.noConfusion
    · rfl
  unfold moved
  dsimp only
  split
  · exact hset.silent (announces_wake _ n)
  · exact hset

theorem announces_act {a : Action} {reply : Option Bool} (h : w.act n a = .ok (w', reply)) :
    Announces 0 mover w w' := by
  obtain ⟨m, -, rfl⟩ := act_eq_ok h
  exact announces_moved w n m

theorem announces_tryAct (w : Workbench) (n : Nat) (a : Action) : Announces 0 mover w (w.tryAct n a) := by
  unfold tryAct
  cases hact : w.act n a with
  | error f => exact announces_refl w
  | ok result => exact announces_act hact

theorem announces_leave (w : Workbench) (t : Nat) (run : Run) (outer : List Frame)
    (result : Except Failure RunReport) : Announces 0 (some t) w (w.leave t run outer result) :=
  (announces_setSession rfl).setTask (leftTask outer result)

theorem announces_tell {c : Callback} {e : Event} {go : Workbench → Workbench}
    (hgo : ∀ v, Announces 0 (some t) v (go v)) :
    Announces ((run.observer.hears e).count .complete) (some t) w (w.tell t run outer c e go) := by
  have hnote : Announces ((run.observer.hears e).count .complete) (some t) w (w.note (run.observer.hears e)) :=
    announces_note rfl
  unfold tell
  dsimp only
  split
  · exact hnote.silent (announces_leave _ _ _ _ _)
  · exact hnote.silent (hgo _)

theorem count_hears (o : Observer) {e : Event} (h : e ≠ .complete) : (o.hears e).count .complete = 0 := by
  unfold Observer.hears
  split
  · rw [List.count_singleton, if_neg (by simpa using h)]
  · rfl

theorem count_hears_complete (o : Observer) : (o.hears .complete).count .complete = if o.listens then 1 else 0 := by
  unfold Observer.hears
  split
  · rfl
  · rfl

/-- Observers may hear of anything else. -/
theorem silent_tell {c : Callback} {e : Event} {go : Workbench → Workbench} (he : e ≠ .complete)
    (hgo : ∀ v, Announces 0 (some t) v (go v)) : Announces 0 (some t) w (w.tell t run outer c e go) := by
  rw [← count_hears run.observer he]
  exact announces_tell hgo

/-! ### Requests and orders -/

theorem silent_control {id : String} {a : Action} {reply : Option Bool} (h : w.control id a = .ok (w', reply)) :
    Announces 0 mover w w' := by
  obtain ⟨m, -, hact⟩ := bind_eq_ok h
  exact announces_act hact

theorem silent_reset {id : String} {clear : Bool} (h : w.reset id clear = .ok w') : Announces 0 mover w w' := by
  obtain ⟨m, -, h⟩ := bind_eq_ok h
  obtain ⟨⟨v, reply⟩, hact, h⟩ := bind_eq_ok h
  have hkept : Announces 0 mover w (v.highlight m .clear) := (announces_act hact).silent (announces_highlight ..)
  cases clear with
  | true =>
      cases h
      exact hkept.silent (announces_setSession rfl)
  | false =>
      cases h
      exact hkept

theorem silent_close (w : Workbench) (id : String) : Announces 0 mover w (w.closeSession id) := by
  unfold closeSession
  cases w.sessions.number? id with
  | none => exact announces_refl w
  | some m =>
      have hremoved : Announces 0 mover w { w with sessions := w.sessions.remove id } :=
        announces_of_tasks rfl rfl rfl rfl
      exact (hremoved.silent (announces_tryAct _ m .stop)).silent (announces_highlight _ m .clear)

theorem silent_carryOut {c : Command} {answer : Answer} (h : w.carryOut c = .ok (w', answer)) :
    Announces 0 mover w w' := by
  cases c with
  | pause id | resume id | stop id =>
      obtain ⟨⟨v, reply⟩, hc, hv⟩ := bind_eq_ok h
      cases hv
      exact silent_control hc
  | reset id clear =>
      obtain ⟨v, hc, hv⟩ := bind_eq_ok h
      cases hv
      exact silent_reset hc
  | close id =>
      cases h
      exact silent_close w id
  | phase id =>
      obtain ⟨p, hc, hv⟩ := bind_eq_ok h
      cases hv
      exact announces_refl w
  | run id text => cases h

theorem silent_opened {id : String} (h : Opened w id w' n) : Announces 0 mover w w' := by
  cases h with
  | found hn hw =>
      rw [hw]
      exact announces_refl w
  | made s hn hs hw hlast =>
      rw [hw]
      exact announces_of_tasks rfl rfl rfl rfl

theorem silent_start {run started : Run} (h : w.start n run = .ok (w', started)) : Announces 0 mover w w' := by
  obtain ⟨⟨v, reply⟩, hact, h⟩ := bind_eq_ok h
  cases h
  exact (announces_act hact).silent (announces_setSession rfl)

theorem silent_enter (w : Workbench) (o : Order) : Announces 0 mover w (w.enter o).1 := by
  unfold enter
  cases hopen : w.openSession o.id with
  | error f => exact announces_refl w
  | ok result =>
      obtain ⟨w₀, m⟩ := result
      have hopened : Announces 0 mover w w₀ := silent_opened (opened_of_ok hopen)
      dsimp only
      split
      · exact hopened
      · have hparsed : Announces 0 mover w
            (w₀.setSession m ({ w₀.session m with lastParse := some (Document.parse o.text) }, [])) :=
          hopened.silent (announces_setSession rfl)
        split
        · rename_i v run hstart
          obtain ⟨u, -, hstart⟩ := bind_eq_ok hstart
          exact hparsed.silent (silent_start hstart)
        · exact hparsed

theorem silent_enterApart (w : Workbench) (o : Order) (root : Path) (blocksOnly rests : Bool) :
    Announces 0 mover w (w.enterApart o root blocksOnly rests).1 := by
  unfold enterApart
  cases hopen : w.openSession o.id with
  | error f => exact announces_refl w
  | ok result =>
      obtain ⟨w₀, m⟩ := result
      have hopened : Announces 0 mover w w₀ := silent_opened (opened_of_ok hopen)
      dsimp only
      split
      · rename_i v run hstart
        cases blocksOnly with
        | true => exact hopened.silent (silent_start hstart)
        | false =>
            obtain ⟨u, -, hstart⟩ := bind_eq_ok hstart
            exact hopened.silent (silent_start hstart)
      · exact hopened

/-- A new task is the last one. -/
theorem announces_append (hsettings : w'.settings = w.settings) (hclient : w'.client = w.client)
    (hlog : w'.log = w.log) {s : TaskState} (htasks : w'.tasks = w.tasks ++ [s]) : Announces 0 mover w w' where
  settings := hsettings
  client := hclient
  count := by rw [hlog, Nat.add_zero]
  length_le := by simp [htasks]
  others u hu _ := by
    have hsame : w'.task u = w.task u := by
      rw [task, task, htasks, List.getD_eq_getElem?_getD, List.getD_eq_getElem?_getD, List.getElem?_append_left hu]
    rw [hsame]
    exact .same

theorem silent_addTask (w : Workbench) (entered : Except Failure Run) : Announces 0 mover w (w.addTask entered).1 := by
  unfold addTask
  cases entered with
  | ok run => exact announces_append rfl rfl rfl rfl
  | error f => exact announces_append rfl rfl rfl rfl

/-! ### Steps -/

theorem silent_goOnAfterStep : Announces 0 (some t) w (goOnAfterStep t run outer w) := by
  have hset := (announces_refl w).setTask (t := t) (.ready (⟨run.advance, .boundary⟩ :: outer))
  unfold goOnAfterStep
  dsimp only
  split
  · exact hset.congr rfl rfl rfl rfl
  · exact hset

theorem silent_endStep {block : Block} {pending : List Message} {result : Except Failure (List Message)} :
    Announces 0 (some t) w (w.endStep t run outer block pending result) := by
  unfold endStep
  cases result with
  | ok messages =>
      exact (announces_setSession rfl).silent (silent_tell Event.noConfusion fun _ => silent_goOnAfterStep)
  | error f =>
      dsimp only
      have hrecorded : Announces 0 (some t) w
          (w.setSession run.session ((w.session run.session).record pending, [])) := announces_setSession rfl
      have hfailed := hrecorded.silent (announces_highlight _ run.session (.failed block.line))
      split
      · exact hfailed.silent (announces_leave _ _ _ _ _)
      · rename_i v reply hact
        exact (hfailed.silent (announces_act hact)).silent
          (silent_tell Event.noConfusion fun _ => announces_leave _ _ _ _ _)

theorem silent_stepActivity {pending : List Message} {activity : Activity (List Message)} :
    Announces 0 (some t) w (w.stepActivity t run outer pending activity) := by
  cases activity with
  | finish result =>
      rw [stepActivity]
      split
      · exact silent_endStep
      · exact announces_leave _ _ _ _ _
  | work piece next =>
      have hset : Announces 0 (some t) w (w.setSession run.session (Run.sessionAfter (w.session run.session)
          (piece.run (run.api (w.session run.session) w.host pending)).2, [])) := announces_setSession rfl
      exact (hset.setTask _).congr rfl rfl rfl rfl
  | wait gate next =>
      have harrive : Announces 0 (some t) w (w.arrive gate) := announces_of_tasks rfl rfl rfl rfl
      exact (harrive.setTask _).congr rfl rfl rfl rfl
  | command c next =>
      by_cases hrun : ∃ name text, c = .run name text
      · obtain ⟨name, text, rfl⟩ := hrun
        have henter : Announces 0 (some t) w (w.enter ⟨name, text, .nobody⟩).1 := silent_enter w _
        rw [stepActivity_run]
        split
        · rename_i v inner hentered
          rw [hentered] at henter
          exact henter.setTask _
        · rename_i v f hentered
          rw [hentered] at henter
          exact henter.setTask _
      · rw [stepActivity_command fun name text h => hrun ⟨name, text, h⟩]
        split
        · rename_i v answer hcarry
          exact (silent_carryOut hcarry).setTask _
        · exact (announces_refl w).setTask _

/-- A run at its end, in a session that may finish. -/
def IsCompleting (w : Workbench) (t : Nat) (run : Run) : Prop :=
  ∃ outer, w.task t = .ready (⟨run, .boundary⟩ :: outer) ∧
    run.boundary (w.session run.session).machine = .finish

theorem silent_stepBoundary (h : run.boundary (w.session run.session).machine ≠ .finish) :
    Announces 0 (some t) w (w.stepBoundary t run outer) := by
  unfold stepBoundary
  split
  · exact ((announces_refl w).setTask _).congr rfl rfl rfl rfl
  · exact ((announces_highlight w run.session .clear).silent (announces_tryAct _ _ _)).silent
      (announces_leave _ _ _ _ _)
  · rename_i hfinish
    exact absurd hfinish h
  · exact (announces_setSession rfl).silent
      (silent_tell Event.noConfusion fun v => (announces_refl v).setTask (.ready (⟨run.advance, .boundary⟩ :: outer)))
  · exact (announces_highlight w run.session _).setTask _

/-- A run that completes tells its observer. -/
theorem announces_complete (hactive : (w.session run.session).machine.isActive = true)
    (hn : run.session < w.sessions.made.length) :
    Announces (if run.observer.listens then 1 else 0) (some t) w (w.complete t run outer) := by
  have hfinish : (w.session run.session).machine.act .finish
      = .ok ((w.session run.session).machine.released .idle, none) := by
    rw [Machine.act, Machine.finish_eq hactive]
    rfl
  obtain ⟨hact, -⟩ := (touches_highlight w run.session .clear).act hn hfinish
  have hcleared : Announces 0 (some t) w (w.highlight run.session .clear) := announces_highlight ..
  have hbefore := hcleared.silent (announces_act hact)
  unfold complete
  rw [hact, ← count_hears_complete, ← Nat.zero_add (List.count _ _)]
  exact hbefore.trans (announces_tell fun _ => announces_leave _ _ _ _ _)

theorem exists_announces_complete : ∃ k, Announces k (some t) w (w.complete t run outer) := by
  unfold complete
  split
  · exact ⟨0, (announces_highlight w run.session .clear).silent (announces_leave _ _ _ _ _)⟩
  · rename_i v reply hact
    have hcleared : Announces 0 (some t) w (w.highlight run.session .clear) := announces_highlight ..
    have hbefore := hcleared.silent (announces_act hact)
    exact ⟨_, hbefore.trans (announces_tell fun _ => announces_leave _ _ _ _ _)⟩

/-- A step is silent unless a run completes in it. -/
theorem announces_step (w : Workbench) (t : Nat) :
    ∃ k, Announces k (some t) w (w.step t) ∧ ((∀ run, ¬IsCompleting w t run) → k = 0) := by
  unfold step
  split
  · rename_i run outer hw
    by_cases hfinish : run.boundary (w.session run.session).machine = .finish
    · obtain ⟨k, hk⟩ : ∃ k, Announces k (some t) w (w.complete t run outer) := exists_announces_complete
      rw [stepBoundary, hfinish]
      exact ⟨k, hk, fun h => absurd ⟨outer, hw, hfinish⟩ (h run)⟩
    · exact ⟨0, silent_stepBoundary hfinish, fun _ => rfl⟩
  · exact ⟨0, silent_stepActivity, fun _ => rfl⟩
  all_goals exact ⟨0, announces_of_tasks rfl rfl rfl rfl, fun _ => rfl⟩

theorem silent_step (h : ∀ run, ¬IsCompleting w t run) : Announces 0 (some t) w (w.step t) := by
  obtain ⟨k, hk, hsilent⟩ := announces_step w t
  cases hsilent h
  exact hk

theorem silent_abandon (w : Workbench) (f : Frame) : Announces 0 mover w (w.abandon f) := by
  have hhalt : Announces 0 mover w ((w.highlight f.run.session .clear).halt f.run.session) := by
    unfold halt
    split
    · exact (announces_highlight w _ _).silent (announces_tryAct _ _ _)
    · exact announces_highlight w _ _
  unfold abandon
  dsimp only
  split
  · exact hhalt.silent (announces_tryAct _ _ _)
  · exact hhalt

theorem silent_cancel (w : Workbench) (t : Nat) : Announces 0 (some t) w (w.cancel t).1 := by
  have hall : ∀ (frames : List Frame) (v : Workbench), Announces 0 (some t) w v →
      Announces 0 (some t) w (frames.foldl abandon v) := by
    intro frames
    induction frames with
    | nil => exact fun _ hv => hv
    | cons f frames ih => exact fun v hv => ih _ (hv.silent (silent_abandon v f))
  unfold cancel
  dsimp only
  split
  · exact announces_refl w
  · exact hall _ _ (((announces_refl w).setTask (.ended .cancelled)).congr rfl rfl rfl rfl)

/-! ### Every move -/

/-- The task that moves. -/
def HostMove.mover? : HostMove → Option Nat
  | .move (.turn t) | .move (.cancel t) => some t
  | .move _ | .apart .. => none

/-- Whatever a host does but to open a gate: it is silent, unless it is the turn of a run that completes. -/
theorem announces_serve (d : HostMove) (hgate : ∀ gate, d ≠ .move (.release gate)) :
    ∃ k, Announces k (HostMove.mover? d) w (w.serve d) ∧
      ((∀ t run, d = .move (.turn t) → ¬IsCompleting w t run) → k = 0) := by
  have hsilent : Announces 0 (HostMove.mover? d) w (w.serve d) →
      ∃ k, Announces k (HostMove.mover? d) w (w.serve d) ∧
        ((∀ t run, d = .move (.turn t) → ¬IsCompleting w t run) → k = 0) := fun h => ⟨0, h, fun _ => rfl⟩
  cases d with
  | apart o root blocksOnly rests =>
      refine hsilent ?_
      rw [serve_apart]
      exact (silent_enterApart w o root blocksOnly rests).silent (silent_addTask _ _)
  | move m =>
      cases m with
      | turn t =>
          obtain ⟨k, hk, hcompleting⟩ := announces_step w t
          exact ⟨k, hk, fun h => hcompleting fun run => h t run rfl⟩
      | start o => exact hsilent ((silent_enter w o).silent (silent_addTask _ _))
      | cancel t => exact hsilent (silent_cancel w t)
      | release gate => exact absurd rfl (hgate gate)
      | rouse =>
          refine hsilent ?_
          change Announces 0 none w (w.move .rouse)
          unfold move
          dsimp only
          split
          · exact announces_of_tasks rfl rfl rfl rfl
          · exact announces_refl w
      | request c =>
          refine hsilent ?_
          change Announces 0 none w (w.move (.request c))
          unfold move
          dsimp only
          split
          · rename_i v answer hcarry
            exact silent_carryOut hcarry
          · exact announces_refl w
      | openSession id =>
          refine hsilent ?_
          change Announces 0 none w (w.move (.openSession id))
          unfold move
          dsimp only
          split
          · rename_i v m hopen
            exact silent_opened (opened_of_ok hopen)
          · exact announces_refl w
      | parse id text =>
          refine hsilent ?_
          change Announces 0 none w (w.move (.parse id text))
          unfold move
          dsimp only
          split
          · rename_i v doc hparse
            obtain ⟨⟨v₀, m⟩, hopen, hparse⟩ := bind_eq_ok hparse
            cases hparse
            exact (silent_opened (opened_of_ok hopen)).silent (announces_setSession rfl)
          · exact announces_refl w

/-- No move changes what new sessions are made with, and none takes a task away. -/
theorem serve_keeps (w : Workbench) (d : HostMove) :
    (w.serve d).settings = w.settings ∧ (w.serve d).client = w.client ∧ w.tasks.length ≤ (w.serve d).tasks.length := by
  by_cases hgate : ∃ gate, d = .move (.release gate)
  · obtain ⟨gate, rfl⟩ := hgate
    exact ⟨rfl, rfl, Nat.le_of_eq (List.length_map _).symm⟩
  · obtain ⟨k, hk, -⟩ := announces_serve (w := w) d fun gate hopens => hgate ⟨gate, hopens⟩
    exact ⟨hk.settings, hk.client, hk.length_le⟩

/-- Observers hear that a run is completed in the turn in which it completes. -/
theorem isCompleting_of_count {d : HostMove} (h : (w.serve d).log.count .complete ≠ w.log.count .complete) :
    ∃ t run, d = .move (.turn t) ∧ IsCompleting w t run := by
  by_contra hnone
  by_cases hgate : ∃ gate, d = .move (.release gate)
  · obtain ⟨gate, rfl⟩ := hgate
    exact h rfl
  · obtain ⟨k, hk, hsilent⟩ := announces_serve (w := w) d fun gate hopens => hgate ⟨gate, hopens⟩
    cases hsilent fun t run hturn hrun => hnone ⟨t, run, hturn, hrun⟩
    exact h hk.count

end Workbench

end Playbook
