import Playbook.Proofs.Session.Consistency
/-!
# The stages of a run

What the happenings of a session may be, as an automaton: a session is free, or a run is going on in it, in a step
or between two steps, or a step of the run failed. The stage can also be read off the sessions and stacks, and
`chronicle_path` says that the two agree: the chronicle of every history is a path of the automaton from the
stage before it to the stage after it. So what is true of all paths is true of all histories.
-/

namespace Playbook

inductive Stage where
  | free
  | going (phase : Phase) (inStep : Bool)
  /-- A step failed, and the run is about to leave. -/
  | failing (f : Failure)
deriving DecidableEq

namespace Stage

/-- How a happening changes the stage of session `n`. -/
inductive Step (n : Nat) : Stage → Happening → Stage → Prop
  | other {st : Stage} {e : Happening} (h : e.session ≠ n) : Step n st e st
  | started : Step n .free (.started n) (.going .running false)
  | began {i : Nat} {b : Block} {inStep : Bool} (hb : b.isDirective = inStep) :
      Step n (.going .running false) (.began n i b) (.going .running inStep)
  | paused {p : Phase} {inStep : Bool} (hp : p.isActive = true) :
      Step n (.going p inStep) (.paused n) (.going .paused inStep)
  | resumed {inStep : Bool} : Step n (.going .paused inStep) (.resumed n) (.going .running inStep)
  | stopped {p : Phase} {inStep : Bool} (hp : p.isActive = true) :
      Step n (.going p inStep) (.stopped n) (.going .stopped inStep)
  | ended {p : Phase} {queued messages : List Message} :
      Step n (.going p true) (.ended n queued (.ok messages)) (.going p false)
  | raised {p : Phase} {queued : List Message} {f : Failure} :
      Step n (.going p true) (.ended n queued (.error f)) (.failing f)
  | leftStopped {r : RunReport} (hending : r.ending = .stopped) (hphase : r.phase = .idle) :
      Step n (.going .stopped false) (.left n (some r)) .free
  | leftCompleted {p : Phase} {r : RunReport} (hp : p.isActive = true) (hending : r.ending = .completed)
      (hphase : r.phase = .idle) : Step n (.going p false) (.left n (some r)) .free
  | leftFailed {f : Failure} {line : Nat} {r : RunReport} (hending : r.ending = .failed line f)
      (hphase : r.phase = .failed) : Step n (.failing f) (.left n (some r)) .free
  | cancelled {p : Phase} {inStep : Bool} : Step n (.going p inStep) (.left n none) .free

inductive Path (n : Nat) : Stage → List Happening → Stage → Prop
  | nil {st : Stage} : Path n st [] st
  | cons {st st' st'' : Stage} {e : Happening} {es : List Happening} (h : Step n st e st') (hes : Path n st' es st'') :
      Path n st (e :: es) st''

namespace Path

variable {n : Nat} {st st' : Stage} {es es' : List Happening}

theorem single {e : Happening} (h : Step n st e st') : Path n st [e] st' := .cons h .nil

theorem append {st'' : Stage} (h : Path n st es st') (h' : Path n st' es' st'') : Path n st (es ++ es') st'' := by
  induction h with
  | nil => exact h'
  | cons hstep hes ih => exact .cons hstep (ih h')

theorem split (h : Path n st (es ++ es') st') : ∃ mid, Path n st es mid ∧ Path n mid es' st' := by
  induction es generalizing st with
  | nil => exact ⟨st, .nil, h⟩
  | cons e es ih =>
      cases h with
      | cons hstep hes =>
          obtain ⟨mid, hleft, hright⟩ := ih hes
          exact ⟨mid, .cons hstep hleft, hright⟩

/-- What happens to other sessions leaves the stage. -/
theorem others (h : ∀ e ∈ es, e.session ≠ n) : Path n st es st := by
  induction es with
  | nil => exact .nil
  | cons e es ih =>
      exact .cons (.other (h e List.mem_cons_self)) (ih fun e' he' => h e' (List.mem_cons_of_mem _ he'))

end Path

end Stage

/-! ### Requests -/

/-- The stage of a machine whose run is in a step or not. -/
def Machine.stage (m : Machine) (inStep : Bool) : Stage := if m.isOwned then .going m.phase inStep else .free

namespace Machine

variable {m m' : Machine} {n : Nat} {inStep : Bool}

theorem stage_of_free (h : m.isOwned = false) : m.stage inStep = .free := by
  rw [stage, h, if_neg Bool.false_ne_true]

theorem stage_of_taken (hs : m.IsSound) (h : m.phase.isTaken = true) : m.stage inStep = .going m.phase inStep := by
  rw [stage, hs, h, if_pos rfl]

theorem pause_path (hs : m.IsSound) (h : m.pause = .ok m') :
    Stage.Path n (m.stage inStep) [.paused n] (m'.stage inStep) := by
  have hactive : m.isActive = true := by
    rcases pause_eq_ok.1 h with ⟨hp, -⟩ | ⟨hp, -⟩
    · rw [isActive, hp]; rfl
    · rw [isActive, hp]; rfl
  have hpaused : m'.phase = .paused := by
    rcases pause_eq_ok.1 h with ⟨hp, rfl⟩ | ⟨hp, rfl⟩
    · exact hp
    · rfl
  rw [stage_of_taken hs (isTaken_of_isActive hactive),
    stage_of_taken (keepsOwner_pause hs h).sound (by rw [hpaused]; rfl), hpaused]
  exact .single (.paused hactive)

theorem resume_path (hs : m.IsSound) (h : m.resume = .ok m') :
    Stage.Path n (m.stage inStep) [.resumed n] (m'.stage inStep) := by
  have hsound := (keepsOwner_resume hs h).sound
  obtain ⟨hp, rfl⟩ := resume_eq_ok.1 h
  rw [stage_of_taken hs (by rw [hp]; rfl), stage_of_taken hsound rfl, hp]
  exact .single .resumed

theorem stop_path (hs : m.IsSound) :
    Stage.Path n (m.stage inStep) (if m.isActive then [.stopped n] else []) (m.stop.1.stage inStep) := by
  have hsound := (keepsOwner_stop hs).sound
  cases hactive : m.isActive with
  | true =>
      rw [stop_of_active hactive] at hsound ⊢
      rw [stage_of_taken hs (isTaken_of_isActive hactive), stage_of_taken hsound rfl, if_pos rfl]
      exact .single (.stopped hactive)
  | false =>
      rw [stop_of_not_active hactive, if_neg Bool.false_ne_true]
      exact .nil

theorem reset_path (hs : m.IsSound) (h : m.reset = .ok m') : Stage.Path n (m.stage inStep) [] (m'.stage inStep) := by
  obtain ⟨-, hfree, -⟩ := reset_eq_ok.1 h
  rw [stage_of_free hfree, stage_of_free ((keepsOwner_reset hs h).owner.trans hfree)]
  exact .nil

end Machine

/-! ### The stage of a session -/

def Frame.isInStep (f : Frame) : Bool :=
  match f.point with
  | .boundary => false
  | _ => true

namespace Workbench

/-- Whether some run of the session is in a step. -/
def inStep (allStacks : List (List Frame)) (n : Nat) : Bool :=
  allStacks.flatten.any fun f => f.run.session == n && f.isInStep

def stage (s : Sessions) (allStacks : List (List Frame)) (n : Nat) : Stage :=
  (s.get n).machine.stage (inStep allStacks n)

section View

variable {s s' : Sessions} {allStacks allStacks' : List (List Frame)} {n t : Nat} {frames outer : List Frame}
  {f : Frame}

theorem stage_of_free (h : (s.get n).machine.isOwned = false) : stage s allStacks n = .free :=
  Machine.stage_of_free h

/-- Where only one of a list is meant, it decides alone. -/
theorem any_of_unique {p : Frame → Bool} {l : List Frame} (hone : l.countP p = 1) (hf : f ∈ l) (hp : p f = true)
    (q : Frame → Bool) : (l.any fun g => p g && q g) = q f := by
  obtain ⟨l₁, l₂, rfl⟩ := List.append_of_mem hf
  rw [List.countP_append, List.countP_cons_of_pos hp] at hone
  have hnone : ∀ l : List Frame, l.countP p = 0 → (l.any fun g => p g && q g) = false := by
    intro l hl
    rw [List.any_eq_false]
    intro g hg hpq
    exact List.countP_eq_zero.1 hl g hg (Bool.and_eq_true_iff.1 hpq).1
  rw [List.any_append, List.any_cons, hnone l₁ (by omega), hnone l₂ (by omega), hp]
  simp

theorem stage_of_mem (h : Consistent s allStacks) (hstack : frames ∈ allStacks) (hf : f ∈ frames) :
    stage s allStacks f.run.session = .going (s.get f.run.session).machine.phase f.isInStep := by
  have howned := h.owned hstack hf
  have hone := h.owners f.run.session
  rw [howned, if_pos rfl] at hone
  rw [stage, Machine.stage, howned, if_pos rfl, inStep,
    any_of_unique hone (List.mem_flatten.2 ⟨frames, hstack, hf⟩) (beq_self_eq_true _) Frame.isInStep]

/-- A session keeps its stage with its machine if its run is where it was. -/
theorem stage_congr (h : Consistent s allStacks) (h' : Consistent s' allStacks')
    (hmachine : (s'.get n).machine = (s.get n).machine)
    (hkept : ∀ f ∈ allStacks.flatten, f.run.session = n →
      ∃ f' ∈ allStacks'.flatten, f'.run.session = n ∧ f'.isInStep = f.isInStep) :
    stage s' allStacks' n = stage s allStacks n := by
  cases howned : (s.get n).machine.isOwned with
  | false => rw [stage_of_free howned, stage_of_free (hmachine ▸ howned)]
  | true =>
      have hone := h.owners n
      rw [howned, if_pos rfl] at hone
      obtain ⟨f, hf, hn⟩ := List.countP_pos_iff.1 (Nat.lt_of_lt_of_eq Nat.one_pos hone.symm)
      obtain rfl : f.run.session = n := by simpa using hn
      obtain ⟨f', hf', hsession, hinStep⟩ := hkept f hf rfl
      obtain ⟨frames, hframes, hmem⟩ := List.mem_flatten.1 hf
      obtain ⟨frames', hframes', hmem'⟩ := List.mem_flatten.1 hf'
      rw [stage_of_mem h hframes hmem, ← hsession, stage_of_mem h' hframes' hmem', hinStep, hsession, hmachine]

/-- The other tasks keep their runs. -/
theorem mem_flatten_set (hf : f ∈ allStacks.flatten) (frames : List Frame) :
    f ∈ allStacks.getD t [] ∨ f ∈ (allStacks.set t frames).flatten := by
  obtain ⟨frames', hframes', hmem⟩ := List.mem_flatten.1 hf
  obtain ⟨u, hu, rfl⟩ := List.getElem_of_mem hframes'
  by_cases htu : t = u
  · subst htu
    left
    rw [List.getD_eq_getElem?_getD, List.getElem?_eq_getElem hu]
    exact hmem
  · right
    refine List.mem_flatten.2 ⟨allStacks[u], ?_, hmem⟩
    have hset : (allStacks.set t frames)[u]? = some allStacks[u] := by
      rw [List.getElem?_set_ne htu, List.getElem?_eq_getElem hu]
    exact List.mem_of_getElem? hset

theorem stage_congr_set (h : Consistent s allStacks) (h' : Consistent s' (allStacks.set t frames))
    (ht : t < allStacks.length) (hmachine : (s'.get n).machine = (s.get n).machine)
    (hkept : ∀ f ∈ allStacks.getD t [], f.run.session = n →
      ∃ f' ∈ frames, f'.run.session = n ∧ f'.isInStep = f.isInStep) :
    stage s' (allStacks.set t frames) n = stage s allStacks n := by
  refine stage_congr h h' hmachine ?_
  intro f hf hn
  rcases mem_flatten_set (t := t) hf frames with hmem | hmem
  · obtain ⟨f', hf', hsession, hinStep⟩ := hkept f hmem hn
    exact ⟨f', List.mem_flatten.2 ⟨frames, List.mem_set ht frames, hf'⟩, hsession, hinStep⟩
  · exact ⟨f, hmem, hn, rfl⟩

/-- What becomes of the innermost run of a task does not show in other sessions. -/
theorem stage_congr_other (h : Consistent s allStacks) (h' : Consistent s' (allStacks.set t frames))
    (ht : t < allStacks.length) (hstack : allStacks.getD t [] = f :: outer) (hn : n ≠ f.run.session)
    (hmachine : (s'.get n).machine = (s.get n).machine)
    (hkept : ∀ g ∈ outer, ∃ g' ∈ frames, g'.run.session = g.run.session ∧ g'.isInStep = g.isInStep) :
    stage s' (allStacks.set t frames) n = stage s allStacks n := by
  refine stage_congr_set h h' ht hmachine ?_
  intro g hg hg'
  rw [hstack] at hg
  rcases List.mem_cons.1 hg with rfl | hg
  · exact absurd hg'.symm hn
  · obtain ⟨g', hmem, hsession, hinStep⟩ := hkept g hg
    exact ⟨g', hmem, hsession.trans hg', hinStep⟩

/-- A run that goes on in its session keeps the stages if it is in a step as before. -/
theorem stage_restack {f' : Frame} (h : Consistent s allStacks) (h' : Consistent s (allStacks.set t (f' :: outer)))
    (ht : t < allStacks.length) (hstack : allStacks.getD t [] = f :: outer) (hsession : f'.run.session = f.run.session)
    (hinStep : f'.isInStep = f.isInStep) (n : Nat) :
    stage s (allStacks.set t (f' :: outer)) n = stage s allStacks n := by
  refine stage_congr_set h h' ht rfl ?_
  intro g hg hn
  rw [hstack] at hg
  rcases List.mem_cons.1 hg with rfl | hg
  · exact ⟨f', List.mem_cons_self, hsession.trans hn, hinStep⟩
  · exact ⟨g, List.mem_cons_of_mem _ hg, hn, rfl⟩

theorem stage_update_other {k : Nat} (hn : n ≠ k) (g : Session → Session) :
    stage (s.update k g) allStacks n = stage s allStacks n := by
  rw [stage, stage, Sessions.get_update_other s g hn]

theorem stage_update_same (hn : n < s.made.length) (g : Session → Session) :
    stage (s.update n g) allStacks n = (g (s.get n)).machine.stage (inStep allStacks n) := by
  rw [stage, Sessions.get_update_same s g hn]

end View

/-! ### Paths of single moves -/

section Paths

variable {w w' : Workbench} {t n : Nat} {es : List Happening}

/-- Happenings of one session lead along a path for all of them if they do for that one. -/
theorem path_of_session {k : Nat} {a b : Nat → Stage} (hes : ∀ e ∈ es, e.session = k)
    (hself : Stage.Path k (a k) es (b k)) (hother : ∀ n, n ≠ k → b n = a n) (n : Nat) :
    Stage.Path n (a n) es (b n) := by
  by_cases hn : n = k
  · subst hn
    exact hself
  · rw [hother n hn]
    refine .others ?_
    intro e he heq
    exact hn (heq.symm.trans (hes e he))

/-- A request changes the stage as it changes the machine. -/
theorem path_of_machine {s : Sessions} {allStacks : List (List Frame)} {k : Nat} {g : Session → Session}
    (hk : k < s.made.length) (hes : ∀ e ∈ es, e.session = k)
    (hpath : Stage.Path k ((s.get k).machine.stage (inStep allStacks k)) es
      ((g (s.get k)).machine.stage (inStep allStacks k))) (n : Nat) :
    Stage.Path n (stage s allStacks n) es (stage (s.update k g) allStacks n) := by
  refine path_of_session hes ?_ (fun n hn => stage_update_other hn g) n
  rw [stage_update_same hk]
  exact hpath

theorem session_of_stopped {k : Nat} {b : Bool} : ∀ e ∈ (if b then [Happening.stopped k] else []), e.session = k := by
  cases b <;> simp [Happening.session]

theorem Carried.path {allStacks : List (List Frame)} {c : Command} (h : Consistent w.sessions allStacks)
    (hc : Carried w c w' es) (n : Nat) :
    Stage.Path n (stage w.sessions allStacks n) es (stage w'.sessions allStacks n) := by
  cases hc with
  | @pause id k m hk hm =>
      rw [sessions_moved]
      refine path_of_machine (h.ids.lt_of_number? hk) (by simp [Happening.session]) ?_ n
      exact Machine.pause_path (h.machines k) hm
  | @resume id k m hk hm =>
      rw [sessions_moved]
      refine path_of_machine (h.ids.lt_of_number? hk) (by simp [Happening.session]) ?_ n
      exact Machine.resume_path (h.machines k) hm
  | @stop id k hk =>
      rw [sessions_moved]
      exact path_of_machine (h.ids.lt_of_number? hk) session_of_stopped (Machine.stop_path (h.machines k)) n
  | @reset id clear k m w' hk hm hsessions hstacks =>
      rw [hsessions]
      refine path_of_machine (h.ids.lt_of_number? hk) (fun e he => absurd he List.not_mem_nil) ?_ n
      cases clear with
      | true => exact Machine.reset_path (h.machines k) hm
      | false => exact Machine.reset_path (h.machines k) hm
  | @close id k w' hk hsessions hstacks =>
      rw [hsessions]
      exact path_of_machine (s := w.sessions.remove id) (h.ids.lt_of_number? hk) session_of_stopped
        (Machine.stop_path (h.machines k)) n
  | closeUnknown hk => exact .nil
  | phase hk => exact .nil

/-- Opening a session changes no stage. -/
theorem Opened.stage {id : String} {k : Nat} (hopen : Opened w id w' k) (allStacks : List (List Frame)) (n : Nat) :
    stage w'.sessions allStacks n = stage w.sessions allStacks n := by
  cases hopen with
  | found hn hw => rw [hw]
  | made s hn hs hw hlast =>
      subst hw
      change Workbench.stage (w.sessions.add s).1 allStacks n = _
      rw [Workbench.stage, Sessions.get_add]
      split
      · rename_i hn
        rw [(machine_new hs).2, Machine.stage_of_free rfl, hn,
          stage_of_free (by rw [Sessions.get_of_length_le _ (Nat.le_refl _)]; rfl)]
      · rfl

/-- An order that is not carried out changes no stage. -/
theorem Entered.stage {o : Order} {f : Failure} (hentered : Entered w o w' (.error f)) (allStacks : List (List Frame))
    (n : Nat) : stage w'.sessions allStacks n = stage w.sessions allStacks n := by
  cases hentered with
  | unopened hopen => rfl
  | busy hn howned => rfl
  | turnedDown hopen hfree hsessions hstacks =>
      rw [hsessions, ← hopen.stage allStacks n]
      exact Sessions.apply_get_update _ _ _ _ (fun s => s.machine.stage (inStep allStacks n)) fun _ => rfl

/-! ### Paths of turns -/

/-- A run goes on in its session. -/
theorem goOn_path (h : Consistent w.sessions w.allStacks) (h' : Consistent w'.sessions w'.allStacks) {run run' : Run}
    {point point' : Point} {outer : List Frame} (hw : w.task t = .ready (⟨run, point⟩ :: outer))
    {g : Session → Session} {s : TaskState} (hchanges : Changes w t run.session g s w')
    (hs : s.frames = ⟨run', point'⟩ :: outer) (hsession : run'.session = run.session)
    (hmachine : (g (w.session run.session)).machine = (w.session run.session).machine)
    (hpath : Stage.Path run.session
      (.going (w.session run.session).machine.phase (Frame.isInStep ⟨run, point⟩)) es
      (.going (w.session run.session).machine.phase (Frame.isInStep ⟨run', point'⟩)))
    (hes : ∀ e ∈ es, e.session = run.session) (n : Nat) :
    Stage.Path n (stage w.sessions w.allStacks n) es (stage w'.sessions w'.allStacks n) := by
  obtain ⟨ht, hstack, -, htaken⟩ := h.ready hw
  have hmem : ⟨run, point⟩ :: outer ∈ w.allStacks := hstack ▸ getD_mem ht
  have hstacks : w'.allStacks = w.allStacks.set t (⟨run', point'⟩ :: outer) := hs ▸ hchanges.allStacks
  have hmem' : ⟨run', point'⟩ :: outer ∈ w'.allStacks := hstacks ▸ List.mem_set ht _
  have hbefore := stage_of_mem h hmem List.mem_cons_self
  have hafter := stage_of_mem h' hmem' List.mem_cons_self
  have hget : (w'.sessions.get run.session).machine = (w.session run.session).machine := by
    rw [hchanges.sessions, Sessions.get_update_same _ _ (Sessions.lt_length_of_taken htaken)]
    exact hmachine
  refine path_of_session hes ?_ ?_ n
  · rw [hsession, hget] at hafter
    rw [hbefore, hafter]
    exact hpath
  · intro n hn
    rw [hstacks] at h' ⊢
    refine stage_congr_other h h' ht hstack hn ?_ fun g hg => ⟨g, List.mem_cons_of_mem _ hg, rfl, rfl⟩
    rw [hchanges.sessions, Sessions.get_update_other _ _ hn]

/-- The runs outside of a run that leaves are as before, but for the one that waited for it and goes on. -/
theorem exists_left {R : Frame → Frame → Prop} {f : Frame} {outer : List Frame} (hframes : IsStack (f :: outer))
    (result : Except Failure RunReport) (hrefl : ∀ g, R g g)
    (hresumed : ∀ run pending next, R ⟨run, .awaiting pending next⟩ ⟨run, .working pending (resume next result)⟩)
    {g : Frame} (hg : g ∈ outer) : ∃ g' ∈ left outer result, R g g' := by
  rcases outer with _ | ⟨⟨run, point⟩, outer⟩
  · cases hg
  · obtain ⟨pending, next, rfl⟩ : Frame.IsAwaiting ⟨run, point⟩ := hframes.outer _ List.mem_cons_self
    rcases List.mem_cons.1 hg with rfl | hg
    · exact ⟨_, List.mem_cons_self, hresumed run pending next⟩
    · exact ⟨g, List.mem_cons_of_mem _ hg, hrefl g⟩

/-- They are in their steps as before. -/
theorem mem_left {f : Frame} {outer : List Frame} (hframes : IsStack (f :: outer)) (result : Except Failure RunReport)
    {g : Frame} (hg : g ∈ outer) :
    ∃ g' ∈ left outer result, g'.run.session = g.run.session ∧ g'.isInStep = g.isInStep :=
  exists_left (R := fun g g' => g'.run.session = g.run.session ∧ g'.isInStep = g.isInStep) hframes result
    (fun _ => ⟨rfl, rfl⟩) (fun _ _ _ => ⟨rfl, rfl⟩) hg

/-- The session remembers what the run that leaves it reports. -/
theorem Consistent.lastRun_of_leave (h : Consistent w.sessions w.allStacks) {run : Run} {point : Point}
    {outer : List Frame} (hw : w.task t = .ready (⟨run, point⟩ :: outer)) {g : Session → Session} {r : RunReport}
    {s : TaskState} (hchanges : Changes w t run.session (fun s => run.remember (.ok r) (g s)) s w') :
    (w'.session run.session).lastRun = some r := by
  obtain ⟨-, -, hframes, htaken⟩ := h.ready hw
  have hremembered : run.isRemembered = true := (hframes.sound _ List.mem_cons_self).remembered
  rw [session_eq, hchanges.sessions, Sessions.get_update_same _ _ (Sessions.lt_length_of_taken htaken), Run.remember,
    if_pos hremembered]

/-- A run leaves its session. -/
theorem leave_path (es : List Happening) (h : Consistent w.sessions w.allStacks)
    (h' : Consistent w'.sessions w'.allStacks) {run : Run} {point : Point} {outer : List Frame}
    (hw : w.task t = .ready (⟨run, point⟩ :: outer)) {g : Session → Session} {r : RunReport}
    (hchanges : Changes w t run.session (fun s => run.remember (.ok r) (g s)) (leftTask outer (.ok r)) w')
    (hfree : (g (w.session run.session)).machine.isOwned = false)
    (hpath : Stage.Path run.session
      (.going (w.session run.session).machine.phase (Frame.isInStep ⟨run, point⟩)) (es ++ [.left run.session (some r)])
      .free)
    (hes : ∀ e ∈ es, e.session = run.session) (n : Nat) :
    Stage.Path n (stage w.sessions w.allStacks n)
      (es ++ [.left run.session (w'.session run.session).lastRun]) (stage w'.sessions w'.allStacks n) := by
  obtain ⟨ht, hstack, hframes, htaken⟩ := h.ready hw
  have hn := Sessions.lt_length_of_taken htaken
  have hmem : ⟨run, point⟩ :: outer ∈ w.allStacks := hstack ▸ getD_mem ht
  rw [h.lastRun_of_leave hw hchanges]
  refine path_of_session (k := run.session) ?_ ?_ ?_ n
  · intro e he
    rcases List.mem_append.1 he with he | he
    · exact hes e he
    · rw [List.mem_singleton.1 he]
      rfl
  · rw [stage_of_mem h hmem List.mem_cons_self, stage_of_free]
    · exact hpath
    · rw [hchanges.sessions, Sessions.get_update_same _ _ hn, Run.machine_remember]
      exact hfree
  · intro n hn
    rw [hchanges.allStacks, frames_leftTask] at h' ⊢
    refine stage_congr_other h h' ht hstack hn ?_ fun g hg => mem_left hframes (.ok r) hg
    rw [hchanges.sessions, Sessions.get_update_other _ _ hn]

/-- A run starts, alone in its task or inside of others. -/
theorem started_path {allStacks : List (List Frame)} (h : Consistent w.sessions allStacks) {o : Order} {run : Run}
    {frames : List Frame} (hcalm : o.observer.IsCalm) (hentered : Entered w o w' (.ok run)) (ht : t < allStacks.length)
    (h' : Consistent w'.sessions (allStacks.set t (⟨run, .boundary⟩ :: frames)))
    (hkept : ∀ f ∈ allStacks.getD t [], ∃ f' ∈ frames, f'.run.session = f.run.session ∧ f'.isInStep = f.isInStep)
    (n : Nat) :
    Stage.Path n (stage w.sessions allStacks n) [.started run.session]
      (stage w'.sessions (allStacks.set t (⟨run, .boundary⟩ :: frames)) n) := by
  obtain ⟨-, w₀, d, hopened, h₀, hn, hfree, hs⟩ := hentered.takes h hcalm
  rw [← hopened.stage allStacks n]
  refine path_of_session (a := stage w₀.sessions allStacks)
    (b := stage w'.sessions (allStacks.set t (⟨run, .boundary⟩ :: frames))) (k := run.session)
    (by simp [Happening.session]) ?_ ?_ n
  · have hmem : ⟨run, .boundary⟩ :: frames ∈ allStacks.set t (⟨run, .boundary⟩ :: frames) := List.mem_set ht _
    rw [stage_of_free hfree, stage_of_mem h' hmem List.mem_cons_self, hs, Sessions.get_update_same _ _ hn]
    exact .single .started
  · intro n hn
    refine stage_congr_set h₀ h' ht ?_ ?_
    · rw [hs, Sessions.get_update_other _ _ hn]
    · intro f hf hf'
      obtain ⟨f', hmem, hsession, hinStep⟩ := hkept f hf
      exact ⟨f', List.mem_cons_of_mem _ hmem, hsession.trans hf', hinStep⟩

theorem Turn.path (h : Consistent w.sessions w.allStacks) (hturn : Turn w t w' es) (n : Nat) :
    Stage.Path n (stage w.sessions w.allStacks n) es (stage w'.sessions w'.allStacks n) := by
  have h' := hturn.consistent h
  cases hturn with
  | rests hsessions hstacks =>
      rw [hsessions, hstacks]
      exact .nil
  | stops hw hphase hchanges =>
      refine leave_path [] h h' hw hchanges rfl ?_ (fun e he => absurd he List.not_mem_nil) n
      rw [hphase]
      exact .single (.leftStopped rfl rfl)
  | completes hw hend hactive hchanges =>
      obtain ⟨-, -, hframes, -⟩ := h.ready hw
      rw [told_of_calm (hframes.sound _ List.mem_cons_self).calm] at hchanges
      refine leave_path [] h h' hw hchanges rfl ?_ (fun e he => absurd he List.not_mem_nil) n
      exact .single (.leftCompleted hactive rfl rfl)
  | fails hw hblock hchanges =>
      obtain ⟨-, -, hframes, -⟩ := h.ready hw
      rw [told_of_calm (hframes.sound _ List.mem_cons_self).calm] at hchanges
      refine leave_path [_] h h' hw hchanges rfl ?_ (by simp [Happening.session]) n
      exact .cons .raised (.single (.leftFailed rfl rfl))
  | records hw hblock hplain hrunning hchanges =>
      obtain ⟨-, -, hframes, -⟩ := h.ready hw
      rw [toldTask_of_calm (hframes.sound _ List.mem_cons_self).calm] at hchanges
      refine goOn_path h h' hw hchanges rfl rfl rfl ?_ (by simp [Happening.session]) n
      rw [hrunning]
      exact .single (.began hplain)
  | begins hw hblock hdirective hrunning hchanges =>
      refine goOn_path h h' hw hchanges rfl rfl rfl ?_ (by simp [Happening.session]) n
      rw [hrunning]
      exact .single (.began hdirective)
  | succeeds hw hblock hchanges =>
      obtain ⟨-, -, hframes, -⟩ := h.ready hw
      rw [toldTask_of_calm (hframes.sound _ List.mem_cons_self).calm] at hchanges
      exact goOn_path h h' hw hchanges rfl rfl rfl (.single .ended) (by simp [Happening.session]) n
  | works hw hwork hchanges hhost =>
      have hhosted : Consistent { w' with host := w.host }.sessions { w' with host := w.host }.allStacks := h'
      have hpath := goOn_path h hhosted hw hchanges rfl rfl rfl .nil (fun e he => absurd he List.not_mem_nil) n
      exact hpath
  | waits hw hchanges =>
      exact goOn_path h h' hw hchanges rfl rfl rfl .nil (fun e he => absurd he List.not_mem_nil) n
  | refused hw hchanges =>
      exact goOn_path h h' hw hchanges rfl rfl rfl .nil (fun e he => absurd he List.not_mem_nil) n
  | enters hw hentered hsessions hstacks =>
      obtain ⟨ht, hstack, -, -⟩ := h.ready hw
      rw [hsessions, hstacks] at h' ⊢
      refine started_path h nobody_isCalm hentered ht h' ?_ n
      intro f hf
      rw [hstack] at hf
      rcases List.mem_cons.1 hf with rfl | hf
      · exact ⟨_, List.mem_cons_self, rfl, rfl⟩
      · exact ⟨f, List.mem_cons_of_mem _ hf, rfl, rfl⟩
  | turnedAway hw hentered hsessions hstacks =>
      obtain ⟨ht, hstack, -, -⟩ := h.ready hw
      rw [hsessions, hstacks] at h' ⊢
      rw [← hentered.stage w.allStacks n, stage_restack (hentered.consistent h) h' ht hstack rfl rfl]
      exact .nil
  | commands hw hcarried hsessions hstacks =>
      obtain ⟨ht, hstack, -, -⟩ := h.ready hw
      rw [hsessions, hstacks] at h' ⊢
      rw [stage_restack (hcarried.consistent h) h' ht hstack rfl rfl]
      exact hcarried.path h n

/-! ### Paths of histories -/

theorem abandon_path {allStacks : List (List Frame)} (ht : t < allStacks.length) {f : Frame} {outer : List Frame}
    (h : Consistent w.sessions (allStacks.set t (f :: outer))) (h' : Consistent w'.sessions (allStacks.set t outer))
    {m : Machine} (hfree : m.isOwned = false)
    (hsessions : w'.sessions = w.sessions.update f.run.session fun s => { s with highlights := .none, machine := m })
    (n : Nat) :
    Stage.Path n (stage w.sessions (allStacks.set t (f :: outer)) n) [.left f.run.session none]
      (stage w'.sessions (allStacks.set t outer) n) := by
  have ht' : t < (allStacks.set t (f :: outer)).length := by rwa [List.length_set]
  have hmem : f :: outer ∈ allStacks.set t (f :: outer) := List.mem_set ht _
  have hn := Sessions.lt_length_of_taken (h.taken hmem List.mem_cons_self)
  refine path_of_session (a := stage w.sessions (allStacks.set t (f :: outer)))
    (b := stage w'.sessions (allStacks.set t outer)) (k := f.run.session) (by simp [Happening.session]) ?_ ?_ n
  · rw [stage_of_mem h hmem List.mem_cons_self, stage_of_free]
    · exact .single .cancelled
    · rw [hsessions, Sessions.get_update_same _ _ hn]
      exact hfree
  · intro n hn
    rw [← List.set_set (f :: outer)] at h' ⊢
    have hstack : (allStacks.set t (f :: outer)).getD t [] = f :: outer := by
      rw [List.getD_eq_getElem?_getD, List.getElem?_set_self ht, Option.getD_some]
    refine stage_congr_other h h' ht' hstack hn ?_ fun g hg => ⟨g, hg, rfl, rfl⟩
    rw [hsessions, Sessions.get_update_other _ _ hn]

theorem abandon_all_path {allStacks : List (List Frame)} (ht : t < allStacks.length) {frames : List Frame}
    (h : Consistent w.sessions (allStacks.set t frames)) (n : Nat) :
    Stage.Path n (stage w.sessions (allStacks.set t frames) n) (frames.map fun f => .left f.run.session none)
      (stage (frames.foldl abandon w).sessions (allStacks.set t []) n) := by
  induction frames generalizing w with
  | nil => exact .nil
  | cons f outer ih =>
      obtain ⟨h', -, m, hfree, hsessions⟩ := abandon_consistent ht h
      exact (abandon_path ht h h' hfree hsessions n).append (ih h')

theorem cancel_path (h : Consistent w.sessions w.allStacks) (t n : Nat) :
    Stage.Path n (stage w.sessions w.allStacks n) ((w.stack t).map fun f => .left f.run.session none)
      (stage (w.cancel t).1.sessions (w.cancel t).1.allStacks n) := by
  rcases cancel_eq w t with ⟨hnil, hw⟩ | ⟨ht, v, hsessions, hstacks, hw⟩
  · rw [hw, hnil]
    exact .nil
  · rw [← set_stack w t, ← hsessions] at h
    have hpath := abandon_all_path ht h n
    have hrest := (abandon_all ht h).2
    rw [hw, hrest, hstacks]
    rw [hsessions, set_stack w t] at hpath
    exact hpath

/-- A task without runs changes no stage. -/
theorem stage_addTask (s : Sessions) (allStacks : List (List Frame)) (n : Nat) :
    stage s (allStacks ++ [[]]) n = stage s allStacks n := by
  simp [stage, inStep]

theorem start_path (h : Consistent w.sessions w.allStacks) {o : Order} (hcalm : o.observer.IsCalm) (n : Nat) :
    Stage.Path n (stage w.sessions w.allStacks n) (w.admitted o)
      (stage (w.move (.start o)).sessions (w.move (.start o)).allStacks n) := by
  have h' := start_consistent h hcalm
  rcases start_cases w o with ⟨f, w₁, hentered, hnone, hsessions, hstacks⟩ |
    ⟨run, w₁, hentered, hone, hsessions, hstacks⟩
  · rw [hnone, hsessions, hstacks, stage_addTask, hentered.stage]
    exact .nil
  · rw [hsessions, hstacks, append_eq_set] at h'
    rw [hone, hsessions, hstacks, append_eq_set, ← stage_addTask]
    refine started_path h.addTask hcalm hentered ?_ h' ?_ n
    · rw [List.length_append]
      exact Nat.lt_succ_self _
    · simp

theorem move_path (h : Consistent w.sessions w.allStacks) {m : Move} (hcalm : m.IsCalm) (n : Nat) :
    Stage.Path n (stage w.sessions w.allStacks n) (w.happenings m)
      (stage (w.move m).sessions (w.move m).allStacks n) := by
  cases m with
  | turn t => exact (h.turn t).path h n
  | rouse =>
      obtain ⟨hsessions, hstacks⟩ := move_rouse w
      rw [hsessions, hstacks]
      exact .nil
  | request c =>
      rcases move_request w c with hcarried | ⟨hw, hnone⟩
      · rw [hcarried.allStacks]
        exact hcarried.path h n
      · rw [hw, happenings, hnone]
        exact .nil
  | start o => exact start_path h hcalm n
  | openSession id =>
      rcases move_openSession w id with ⟨k, hopened⟩ | hw
      · rw [hopened.allStacks, hopened.stage]
        exact .nil
      · rw [hw]
        exact .nil
  | parse id text =>
      rcases move_parse w id text with ⟨w₀, k, hopened, hstacks, hsessions⟩ | hw
      · have hsame := Sessions.apply_get_update w₀.sessions k n
          (fun s => { s with lastParse := some (Document.parse text) })
          (fun s => s.machine.stage (inStep w.allStacks n)) fun _ => rfl
        rw [hstacks, hsessions, ← hopened.stage w.allStacks n, stage, stage, hsame]
        exact .nil
      · rw [hw]
        exact .nil
  | release gate =>
      obtain ⟨hsessions, hstacks⟩ := move_release w gate
      rw [hsessions, hstacks]
      exact .nil
  | cancel t => exact cancel_path h t n

/-- The chronicle of a history leads from the stage before it to the stage after it. -/
theorem chronicle_path (h : Consistent w.sessions w.allStacks) {ms : List Move} (hcalm : ∀ m ∈ ms, m.IsCalm) (n : Nat) :
    Stage.Path n (stage w.sessions w.allStacks n) (w.chronicle ms)
      (stage (w.after ms).sessions (w.after ms).allStacks n) := by
  induction ms generalizing w with
  | nil => exact .nil
  | cons m ms ih =>
      have hm := hcalm m List.mem_cons_self
      exact (move_path h hm n).append (ih (move_consistent h hm) fun m' hm' => hcalm m' (List.mem_cons_of_mem _ hm'))

end Paths

end Workbench

end Playbook
