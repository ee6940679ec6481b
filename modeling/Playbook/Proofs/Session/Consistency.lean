import Playbook.Proofs.Session.Tenure
/-!
# Sessions and stacks that fit each other

`Consistent` is the invariant of every history in which callbacks return normally: a session has an owner just if one
run on some stack is its, and the runs on a stack wait for the one above them. No run breaks off then, so whoever hands
a session over leaves it with an owner that still tells how many runs it has. What is to be seen beside that is only
that the runs stay quiet.
-/

namespace Playbook

/-- The step of a run in progress is the step of some block, callbacks return normally, and the session keeps the
report. -/
structure Frame.IsSound (f : Frame) : Prop where
  placed : f.IsPlaced
  calm : f.run.observer.IsCalm
  remembered : f.run.isRemembered = true

/-- The runs of one task, the innermost first. -/
structure IsStack (frames : List Frame) : Prop where
  sound : ∀ f ∈ frames, f.IsSound
  outer : ∀ f ∈ frames.tail, f.IsAwaiting

/-! ### Quiet runs -/

/-- What a run has from its start on: its callbacks return normally, and the session keeps its report. -/
structure Run.IsQuiet (run : Run) : Prop where
  calm : run.observer.IsCalm
  remembered : run.isRemembered = true

/-- All runs on some stacks are quiet. -/
def AreQuiet (allStacks : List (List Frame)) : Prop := ∀ frames ∈ allStacks, ∀ f ∈ frames, f.run.IsQuiet

section Quiet

variable {frames outer : List Frame} {allStacks : List (List Frame)} {t : Nat}

theorem IsStack.isNested (h : IsStack frames) : IsNested frames := ⟨fun f hf => (h.sound f hf).placed, h.outer⟩

theorem IsStack.quiet (h : IsStack frames) : ∀ f ∈ frames, f.run.IsQuiet :=
  fun f hf => ⟨(h.sound f hf).calm, (h.sound f hf).remembered⟩

theorem IsNested.isStack (h : IsNested frames) (hquiet : ∀ f ∈ frames, f.run.IsQuiet) : IsStack frames :=
  ⟨fun f hf => ⟨h.placed f hf, (hquiet f hf).calm, (hquiet f hf).remembered⟩, h.outer⟩

theorem AreQuiet.set (h : AreQuiet allStacks) (hframes : ∀ f ∈ frames, f.run.IsQuiet) :
    AreQuiet (allStacks.set t frames) := by
  intro frames' hmem
  rcases List.mem_or_eq_of_mem_set hmem with hmem | rfl
  · exact h frames' hmem
  · exact hframes

theorem AreQuiet.append (h : AreQuiet allStacks) (hframes : ∀ f ∈ frames, f.run.IsQuiet) :
    AreQuiet (allStacks ++ [frames]) := by
  intro frames' hmem
  rcases List.mem_append.1 hmem with hmem | hmem
  · exact h frames' hmem
  · rw [List.mem_singleton.1 hmem]
    exact hframes

theorem quiet_left (h : ∀ f ∈ outer, f.run.IsQuiet) (result : Except Failure RunReport) :
    ∀ f ∈ Workbench.left outer result, f.run.IsQuiet := by
  unfold Workbench.left
  split
  · obtain ⟨hrun, houter⟩ := List.forall_mem_cons.1 h
    exact List.forall_mem_cons.2 ⟨hrun, houter⟩
  · exact fun f hf => absurd hf List.not_mem_nil

end Quiet

namespace Workbench

structure Consistent (s : Sessions) (allStacks : List (List Frame)) : Prop where
  ids : s.IsNumbered
  machines : ∀ n, (s.get n).machine.IsSound
  owners : ∀ n, loops allStacks n = if (s.get n).machine.isOwned then 1 else 0
  allStacks : ∀ frames ∈ allStacks, IsStack frames

/-! ### Handing over without a break -/

section Change

variable {s s' : Sessions} {allStacks allStacks' : List (List Frame)} {t n : Nat} {frames outer : List Frame}
  {f : Frame} {g : Session → Session}

theorem Consistent.tenured (h : Consistent s allStacks) : Tenured s allStacks where
  ids := h.ids
  machines := h.machines
  owners n := Nat.le_of_eq (h.owners n)
  nested frames hframes := (h.allStacks frames hframes).isNested

/-- A machine still tells how many runs there are on it, if no run breaks off. -/
theorem Handover.owners {p q : Machine × Nat} (h : Handover False p q) (hp : p.2 = if p.1.isOwned then 1 else 0) :
    q.2 = if q.1.isOwned then 1 else 0 := by
  cases h with
  | keeps hkeeps =>
      rw [hkeeps.owner]
      exact hp
  | takes hfree hsound howned => rw [howned, if_pos rfl]
  | releases howned hsound hfree => rw [hfree, if_neg Bool.false_ne_true]
  | breaks hbroken => exact hbroken.elim

theorem Consistent.areQuiet (h : Consistent s allStacks) : AreQuiet allStacks :=
  fun frames hframes => (h.allStacks frames hframes).quiet

theorem Consistent.pass (h : Consistent s allStacks) (hp : HandsOver (fun _ => False) s allStacks s' allStacks')
    (hquiet : AreQuiet allStacks') : Consistent s' allStacks' where
  ids := hp.ids
  machines := (h.tenured.pass hp).machines
  owners n := (hp.handover n).owners (h.owners n)
  allStacks frames hframes := (hp.nested frames hframes).isStack (hquiet frames hframes)

/-- A run in progress has its session. -/
theorem Consistent.owned (h : Consistent s allStacks) (hstack : frames ∈ allStacks) (hf : f ∈ frames) :
    (s.get f.run.session).machine.isOwned = true := (h.tenured.owned hstack hf).1

theorem Consistent.taken (h : Consistent s allStacks) (hstack : frames ∈ allStacks) (hf : f ∈ frames) :
    (s.get f.run.session).machine.phase.isTaken = true := h.tenured.taken hstack hf

/-- No run is concerned. -/
theorem Consistent.touch (h : Consistent s allStacks) (hn : n < s.made.length)
    (hkeeps : (s.get n).machine.KeepsOwner (g (s.get n)).machine) : Consistent (s.update n g) allStacks :=
  h.pass (h.tenured.touch hn hkeeps) h.areQuiet

/-- A task without runs concerns nobody. -/
theorem Consistent.addTask (h : Consistent s allStacks) : Consistent s (allStacks ++ [[]]) :=
  h.pass h.tenured.addTask (h.areQuiet.append nofun)

end Change

/-! ### Commands and starts -/

section Operations

variable {w w' : Workbench} {allStacks : List (List Frame)}

theorem Opened.consistent {id : String} {n : Nat} (h : Consistent w.sessions allStacks) (hopen : Opened w id w' n) :
    Consistent w'.sessions allStacks ∧ n < w'.sessions.made.length := by
  obtain ⟨hpass, hn⟩ := hopen.handsOver h.tenured
  exact ⟨h.pass hpass h.areQuiet, hn⟩

theorem Carried.consistent {c : Command} {es : List Happening} (h : Consistent w.sessions allStacks)
    (hc : Carried w c w' es) : Consistent w'.sessions allStacks :=
  h.pass (hc.handsOver h.tenured) h.areQuiet

/-- An order that is not carried out leaves the owners alone. -/
theorem Entered.consistent {o : Order} {f : Failure} (h : Consistent w.sessions allStacks)
    (he : Entered w o w' (.error f)) : Consistent w'.sessions allStacks :=
  h.pass (he.handsOver h.tenured) h.areQuiet

/-- A run that is started takes a session that nobody has. -/
theorem Entered.takes {o : Order} {run : Run} (h : Consistent w.sessions allStacks) (hcalm : o.observer.IsCalm)
    (he : Entered w o w' (.ok run)) :
    Frame.IsSound ⟨run, .boundary⟩ ∧ ∃ w₀ d, Opened w o.id w₀ run.session ∧ Consistent w₀.sessions allStacks ∧
      run.session < w₀.sessions.made.length ∧ (w₀.session run.session).machine.isOwned = false ∧
      w'.sessions = w₀.sessions.update run.session (begun d) := by
  cases he with
  | started hopen hexecutable hfree hidle hsessions hstacks =>
      obtain ⟨h₀, hn⟩ := hopen.consistent h
      exact ⟨⟨.inl rfl, hcalm, rfl⟩, _, _, hopen, h₀, hn, hfree, hsessions⟩

end Operations

/-! ### Moves -/

section Moves

variable {w w' : Workbench} {t : Nat}

/-- What is known of a task that has runs. -/
theorem Consistent.ready (h : Consistent w.sessions w.allStacks) {f : Frame} {outer : List Frame}
    (hw : w.task t = .ready (f :: outer)) :
    t < w.allStacks.length ∧ w.allStacks.getD t [] = f :: outer ∧ IsStack (f :: outer) ∧
      (w.session f.run.session).machine.phase.isTaken = true := by
  obtain ⟨ht, hstack, -, htaken⟩ := h.tenured.stack (stack_of_ready hw)
  exact ⟨ht, hstack, h.allStacks _ (hstack ▸ getD_mem ht), htaken⟩

/-- Whoever has a turn can take any of the steps that are listed. -/
theorem Consistent.turn (h : Consistent w.sessions w.allStacks) (t : Nat) :
    Turn w t (w.step t) (w.turned t (w.step t)) := h.tenured.turn t

/-- Callbacks return normally, so no run breaks off. -/
theorem Consistent.not_breaksOff (h : Consistent w.sessions w.allStacks) (m : Move) (n : Nat) :
    ¬w.BreaksOff (.move m) n := by
  rintro (⟨hw, hplain, hf⟩ | ⟨hw, hf⟩)
  · obtain ⟨-, -, hframes, -⟩ := h.ready hw
    have hcalm := (hframes.sound _ List.mem_cons_self).calm .progress
    cases hcalm.symm.trans hf
  · obtain ⟨-, -, hframes, -⟩ := h.ready hw
    have hcalm := (hframes.sound _ List.mem_cons_self).calm .progress
    cases hcalm.symm.trans hf

theorem told_of_calm {run : Run} (h : run.observer.IsCalm) (c : Callback) (r : RunReport) : run.told c r = .ok r := by
  rw [Run.told, h c]

theorem toldTask_of_calm {run : Run} (h : run.observer.IsCalm) (outer : List Frame) (s : TaskState) :
    toldTask run outer s = s := by
  rw [toldTask, h .progress]

/-- A run leaves its task. -/
theorem Consistent.quiet_leave (h : Consistent w.sessions w.allStacks) {run : Run} {point : Point} {outer : List Frame}
    (hw : w.task t = .ready (⟨run, point⟩ :: outer)) {g : Session → Session} {result : Except Failure RunReport}
    (hchanges : Changes w t run.session g (leftTask outer result) w') : AreQuiet w'.allStacks := by
  obtain ⟨-, -, hframes, -⟩ := h.ready hw
  rw [hchanges.allStacks, frames_leftTask]
  exact h.areQuiet.set (quiet_left (List.forall_mem_cons.1 hframes.quiet).2 result)

/-- A run goes on with its step or behind it. -/
theorem Consistent.quiet_goOn (h : Consistent w.sessions w.allStacks) {run run' : Run} {point point' : Point}
    {outer : List Frame} (hw : w.task t = .ready (⟨run, point⟩ :: outer))
    (hstacks : w'.allStacks = w.allStacks.set t (⟨run', point'⟩ :: outer)) (hsame : run.IsQuiet → run'.IsQuiet) :
    AreQuiet w'.allStacks := by
  obtain ⟨-, -, hframes, -⟩ := h.ready hw
  obtain ⟨hrun, houter⟩ := List.forall_mem_cons.1 hframes.quiet
  rw [hstacks]
  exact h.areQuiet.set (List.forall_mem_cons.2 ⟨hsame hrun, houter⟩)

theorem Turn.areQuiet {es : List Happening} (h : Consistent w.sessions w.allStacks) (hturn : Turn w t w' es) :
    AreQuiet w'.allStacks := by
  cases hturn with
  | rests hsessions hstacks =>
      rw [hstacks]
      exact h.areQuiet
  | stops hw hphase hchanges => exact h.quiet_leave hw hchanges
  | completes hw hend hactive hchanges => exact h.quiet_leave hw hchanges
  | fails hw hblock hchanges => exact h.quiet_leave hw hchanges
  | records hw hblock hplain hrunning hchanges =>
      obtain ⟨-, -, hframes, -⟩ := h.ready hw
      rw [toldTask_of_calm (hframes.sound _ List.mem_cons_self).calm] at hchanges
      exact h.quiet_goOn hw hchanges.allStacks fun hrun => ⟨hrun.calm, hrun.remembered⟩
  | succeeds hw hblock hchanges =>
      obtain ⟨-, -, hframes, -⟩ := h.ready hw
      rw [toldTask_of_calm (hframes.sound _ List.mem_cons_self).calm] at hchanges
      exact h.quiet_goOn hw hchanges.allStacks fun hrun => ⟨hrun.calm, hrun.remembered⟩
  | begins hw hblock hdirective hrunning hchanges => exact h.quiet_goOn hw hchanges.allStacks id
  | works hw hwork hchanges hhost => exact h.quiet_goOn hw hchanges.allStacks id
  | waits hw hchanges => exact h.quiet_goOn hw hchanges.allStacks id
  | refused hw hchanges => exact h.quiet_goOn hw hchanges.allStacks id
  | enters hw hentered hsessions hstacks =>
      obtain ⟨-, -, hframes, -⟩ := h.ready hw
      obtain ⟨hinner, -⟩ := hentered.takes h nobody_isCalm
      obtain ⟨hrun, houter⟩ := List.forall_mem_cons.1 hframes.quiet
      rw [hstacks]
      exact h.areQuiet.set (List.forall_mem_cons.2 ⟨⟨hinner.calm, hinner.remembered⟩,
        List.forall_mem_cons.2 ⟨hrun, houter⟩⟩)
  | turnedAway hw hentered hsessions hstacks => exact h.quiet_goOn hw hstacks id
  | commands hw hcarried hsessions hstacks => exact h.quiet_goOn hw hstacks id

theorem Turn.consistent {es : List Happening} (h : Consistent w.sessions w.allStacks) (hturn : Turn w t w' es) :
    Consistent w'.sessions w'.allStacks :=
  h.pass ((hturn.handsOver h.tenured).imp (h.not_breaksOff _)) (hturn.areQuiet h)

/-- The innermost run of a cancelled task leaves. -/
theorem abandon_consistent {allStacks : List (List Frame)} (ht : t < allStacks.length) {f : Frame} {outer : List Frame}
    (h : Consistent w.sessions (allStacks.set t (f :: outer))) :
    Consistent (w.abandon f).sessions (allStacks.set t outer) ∧ (w.abandon f).allStacks = w.allStacks ∧
      ∃ m : Machine, m.isOwned = false ∧
        (w.abandon f).sessions =
          w.sessions.update f.run.session fun s => { s with highlights := .none, machine := m } := by
  have hmem : f :: outer ∈ allStacks.set t (f :: outer) := List.mem_set ht _
  obtain ⟨hpass, m, -, hfree, -, htouches⟩ := abandon_handsOver ht h.tenured
  refine ⟨h.pass hpass ?_, htouches.allStacks, m, hfree, htouches.sessions⟩
  rw [← List.set_set (f :: outer)]
  exact h.areQuiet.set (List.forall_mem_cons.1 (h.allStacks _ hmem).quiet).2

/-- The runs of a cancelled task leave one after the other, the innermost first. -/
theorem abandon_all {allStacks : List (List Frame)} (ht : t < allStacks.length) {frames : List Frame}
    (h : Consistent w.sessions (allStacks.set t frames)) :
    Consistent (frames.foldl abandon w).sessions (allStacks.set t []) ∧
      (frames.foldl abandon w).allStacks = w.allStacks := by
  induction frames generalizing w with
  | nil => exact ⟨h, rfl⟩
  | cons f outer ih =>
      obtain ⟨h', hstacks, -⟩ := abandon_consistent ht h
      obtain ⟨hconsistent, hrest⟩ := ih h'
      exact ⟨hconsistent, hrest.trans hstacks⟩

theorem cancel_consistent (h : Consistent w.sessions w.allStacks) (t : Nat) :
    Consistent (w.cancel t).1.sessions (w.cancel t).1.allStacks := by
  rcases cancel_eq w t with ⟨-, hw⟩ | ⟨ht, v, hsessions, hstacks, hw⟩
  · rw [hw]
    exact h
  · rw [← set_stack w t, ← hsessions] at h
    obtain ⟨hconsistent, hrest⟩ := abandon_all ht h
    rw [hw, hrest, hstacks]
    exact hconsistent

theorem exists_of_toBool {ε α : Type} {x : Except ε α} (h : x.toBool = true) : ∃ a, x = .ok a := by
  cases x with
  | error e => cases h
  | ok a => exact ⟨a, rfl⟩

/-- An order that is carried out gets a task with its run, which stands before the first block. -/
theorem start_ready {o : Order} {run : Run} (hids : w.sessions.IsNumbered) (hrun : (w.enter o).2 = .ok run) :
    (w.move (.start o)).task w.tasks.length = .ready [⟨run, .boundary⟩] ∧
      run.session < (w.move (.start o)).sessions.made.length ∧
      ((w.move (.start o)).session run.session).machine.phase = .running ∧
      (w.move (.start o)).registry = w.registry ∧ ∃ n, run = w.ordered n o := by
  have hentered := enter_entered w o
  rw [move_start]
  cases henter : w.enter o with
  | mk w₁ result =>
      rw [henter] at hentered hrun
      subst hrun
      cases hentered with
      | @started w₀ _ n hopen hexecutable hfree hidle hsessions hstacks hregistry =>
          have hn := hopen.lt_length hids
          have hlength : w₁.tasks.length = w.tasks.length := by rw [← length_stacks, hstacks, length_stacks]
          refine ⟨?_, ?_, ?_, hregistry, n, rfl⟩
          · rw [← hlength]
            simp [addTask, task]
          · change n < w₁.sessions.made.length
            rw [hsessions, Sessions.length_made_update]
            exact hn
          · change (w₁.sessions.get n).machine.phase = .running
            rw [hsessions, Sessions.get_update_same _ _ hn]
            rfl

theorem start_consistent (h : Consistent w.sessions w.allStacks) {o : Order} (hcalm : o.observer.IsCalm) :
    Consistent (w.move (.start o)).sessions (w.move (.start o)).allStacks := by
  refine h.pass (start_handsOver h.tenured o) ?_
  rcases start_cases w o with ⟨f, w₁, -, -, -, hstacks⟩ | ⟨run, w₁, hentered, -, -, hstacks⟩
  · rw [hstacks]
    exact h.areQuiet.append nofun
  · obtain ⟨hsound, -⟩ := hentered.takes h hcalm
    rw [hstacks]
    exact h.areQuiet.append (List.forall_mem_singleton.2 ⟨hsound.calm, hsound.remembered⟩)

theorem move_consistent (h : Consistent w.sessions w.allStacks) {m : Move} (hcalm : m.IsCalm) :
    Consistent (w.move m).sessions (w.move m).allStacks := by
  cases m with
  | turn t => exact (h.turn t).consistent h
  | rouse =>
      obtain ⟨hsessions, hstacks⟩ := move_rouse w
      rw [hsessions, hstacks]
      exact h
  | request c =>
      rcases move_request w c with hcarried | ⟨hw, -⟩
      · rw [hcarried.allStacks]
        exact hcarried.consistent h
      · rw [hw]
        exact h
  | start o => exact start_consistent h hcalm
  | openSession id =>
      rcases move_openSession w id with ⟨n, hopened⟩ | hw
      · rw [hopened.allStacks]
        exact (hopened.consistent h).1
      · rw [hw]
        exact h
  | parse id text =>
      rcases move_parse w id text with ⟨w₀, n, hopened, hstacks, hsessions⟩ | hw
      · obtain ⟨h₀, hn⟩ := hopened.consistent h
        rw [hstacks, hsessions]
        exact h₀.touch hn ⟨h₀.machines n, rfl⟩
      · rw [hw]
        exact h
  | release gate =>
      obtain ⟨hsessions, hstacks⟩ := move_release w gate
      rw [hsessions, hstacks]
      exact h
  | cancel t => exact cancel_consistent h t

/-- Sessions and stacks fit each other after every history. -/
theorem after_consistent (h : Consistent w.sessions w.allStacks) {ms : List Move} (hcalm : ∀ m ∈ ms, m.IsCalm) :
    Consistent (w.after ms).sessions (w.after ms).allStacks := by
  induction ms generalizing w with
  | nil => exact h
  | cons m ms ih =>
      exact ih (move_consistent h (hcalm m List.mem_cons_self)) fun m' hm' => hcalm m' (List.mem_cons_of_mem _ hm')

theorem new_consistent (registry : Registry) (settings : Settings) (client : Option Client) (host : Host) :
    Consistent (new registry settings client host).sessions (new registry settings client host).allStacks where
  ids p hp := absurd hp List.not_mem_nil
  machines n := by
    rw [Sessions.get_of_length_le _ (Nat.zero_le n)]
    exact Machine.new_isSound ""
  owners n := by
    rw [Sessions.get_of_length_le _ (Nat.zero_le n)]
    rfl
  allStacks frames hframes := absurd hframes List.not_mem_nil

end Moves

end Workbench

end Playbook
