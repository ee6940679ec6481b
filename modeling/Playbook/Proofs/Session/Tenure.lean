import Playbook.Proofs.Session.Handover
/-!
# Who has a session

The histories here are wider than those of `Consistent`. A host may also start a run apart from the session's own,
which may rest between its steps, and any callback may fail. A callback that fails in the middle of a run breaks the
run off, and then the session has an owner but no run. This is the only way to hand a session over that leaves the two
apart: `serve_handsOver` says so of every move.
-/

namespace Playbook

/-! ### What a host does -/

inductive HostMove where
  | move (m : Move)
  /-- A run apart from those that the session remembers. -/
  | apart (o : Workbench.Order) (root : Path) (blocksOnly rests : Bool)

namespace Workbench

def serve (w : Workbench) : HostMove → Workbench
  | .move m => w.move m
  | .apart o root blocksOnly rests =>
    ((w.enterApart o root blocksOnly rests).1.addTask (w.enterApart o root blocksOnly rests).2).1

def following (w : Workbench) (ds : List HostMove) : Workbench := ds.foldl serve w

/-- In this move a run of the session tells its observer of a block, and the callback fails. -/
inductive BreaksOff (w : Workbench) : HostMove → Nat → Prop
  | passing {t : Nat} {run : Run} {outer : List Frame} {block : Block} {f : Failure}
      (hw : w.task t = .ready (⟨run, .boundary⟩ :: outer))
      (hplain : run.boundary (w.session run.session).machine = .plain block)
      (hf : run.observer.failure? .progress = some f) : BreaksOff w (.move (.turn t)) run.session
  | afterStep {t : Nat} {run : Run} {outer : List Frame} {pending messages : List Message} {f : Failure}
      (hw : w.task t = .ready (⟨run, .working pending (.finish (.ok messages))⟩ :: outer))
      (hf : run.observer.failure? .progress = some f) : BreaksOff w (.move (.turn t)) run.session

/-! ### Turns -/

section Turns

variable {w w' : Workbench} {t : Nat}

/-- What is known of a task that has runs. -/
theorem Tenured.stack (h : Tenured w.sessions w.allStacks) {f : Frame} {outer : List Frame}
    (hstack : w.stack t = f :: outer) :
    t < w.allStacks.length ∧ w.allStacks.getD t [] = f :: outer ∧ IsNested (f :: outer) ∧
      (w.session f.run.session).machine.phase.isTaken = true := by
  rw [stack_eq] at hstack
  have ht : t < w.allStacks.length := by
    by_contra ht
    rw [List.getD_eq_getElem?_getD, List.getElem?_eq_none (Nat.le_of_not_lt ht)] at hstack
    cases hstack
  have hmem : f :: outer ∈ w.allStacks := hstack ▸ getD_mem ht
  exact ⟨ht, hstack, h.nested _ hmem, h.taken hmem List.mem_cons_self⟩

/-- Whoever has a turn can take any of the steps that are listed. -/
theorem Tenured.turn (h : Tenured w.sessions w.allStacks) (t : Nat) :
    Turn w t (w.step t) (w.turned t (w.step t)) := by
  refine step_turn w t ?_
  intro f hf
  cases hstack : w.stack t with
  | nil =>
      rw [hstack] at hf
      cases hf
  | cons top outer =>
      rw [hstack] at hf
      cases hf
      obtain ⟨-, -, hframes, htaken⟩ := h.stack hstack
      exact ⟨htaken, hframes.placed _ List.mem_cons_self⟩

variable {run run' : Run} {point point' : Point} {outer : List Frame} {g : Session → Session} {b : Nat → Prop}

/-- A run leaves its session, or is broken off, whatever comes out of it. -/
theorem Tenured.over (h : Tenured w.sessions w.allStacks) (hw : w.task t = .ready (⟨run, point⟩ :: outer))
    {result : Except Failure RunReport} (hchanges : Changes w t run.session g (leftTask outer result) w')
    (hself : (w.session run.session).machine.isOwned = true →
      Handover (b run.session) ((w.session run.session).machine, 1)
        ((g (w.session run.session)).machine, 0)) :
    HandsOver b w.sessions w.allStacks w'.sessions w'.allStacks := by
  obtain ⟨ht, hstack, hframes, -⟩ := h.stack (stack_of_ready hw)
  rw [hchanges.sessions, hchanges.allStacks, frames_leftTask]
  exact h.leave ht hstack (hframes.left result).1 (hframes.left result).2 hself

/-- A run leaves its session free. -/
theorem Tenured.released (h : Tenured w.sessions w.allStacks) (hw : w.task t = .ready (⟨run, point⟩ :: outer))
    {result result' : Except Failure RunReport}
    (hchanges : Changes w t run.session (fun s => run.remember result' (g s)) (leftTask outer result) w')
    (hsound : (g (w.session run.session)).machine.IsSound)
    (hfree : (g (w.session run.session)).machine.isOwned = false) :
    HandsOver b w.sessions w.allStacks w'.sessions w'.allStacks := by
  refine h.over hw hchanges fun howned => ?_
  rw [Run.machine_remember]
  exact .releases howned hsound hfree

/-- A run goes on in its session. -/
theorem Tenured.goOn (h : Tenured w.sessions w.allStacks) (hw : w.task t = .ready (⟨run, point⟩ :: outer))
    {s : TaskState} (hchanges : Changes w t run.session g s w') (hs : s.frames = ⟨run', point'⟩ :: outer)
    (hpoint : Frame.IsPlaced ⟨run', point'⟩) (hsession : run'.session = run.session)
    (hmachine : (g (w.session run.session)).machine = (w.session run.session).machine) :
    HandsOver b w.sessions w.allStacks w'.sessions w'.allStacks := by
  obtain ⟨ht, hstack, hframes, htaken⟩ := h.stack (stack_of_ready hw)
  have hholders : holders (⟨run', point'⟩ :: outer) = holders (w.allStacks.getD t []) := by
    rw [hstack, holders, holders, List.map_cons, List.map_cons, hsession]
  have hrestack := h.restack (b := b) ht (hframes.replace hpoint) hholders
  have h' := h.pass hrestack
  rw [hchanges.sessions, hchanges.allStacks, hs]
  refine hrestack.trans (h'.touch (Sessions.lt_length_of_taken htaken) ?_)
  rw [← session_eq, hmachine]
  exact h'.keeps run.session

/-- A run that told its observer of a block goes on or is broken off. -/
theorem Tenured.told (h : Tenured w.sessions w.allStacks) (hw : w.task t = .ready (⟨run, point⟩ :: outer))
    (hchanges : Changes w t run.session g (toldTask run outer (.ready (⟨run', .boundary⟩ :: outer))) w')
    (hsession : run'.session = run.session)
    (hmachine : (g (w.session run.session)).machine = (w.session run.session).machine)
    (hbroken : ∀ f, run.observer.failure? .progress = some f → b run.session) :
    HandsOver b w.sessions w.allStacks w'.sessions w'.allStacks := by
  unfold toldTask at hchanges
  cases hf : run.observer.failure? .progress with
  | none =>
      rw [hf] at hchanges
      exact h.goOn hw hchanges rfl (.inl rfl) hsession hmachine
  | some f =>
      rw [hf] at hchanges
      refine h.over hw hchanges fun howned => ?_
      rw [hmachine]
      exact .breaks (hbroken f hf) howned (h.keeps run.session)

theorem Turn.handsOver {es : List Happening} (h : Tenured w.sessions w.allStacks) (hturn : Turn w t w' es) :
    HandsOver (w.BreaksOff (.move (.turn t))) w.sessions w.allStacks w'.sessions w'.allStacks := by
  cases hturn with
  | rests hsessions hstacks =>
      rw [hsessions, hstacks]
      exact h.refl
  | stops hw hphase hchanges => exact h.released hw hchanges rfl rfl
  | completes hw hend hactive hchanges => exact h.released hw hchanges rfl rfl
  | fails hw hblock hchanges => exact h.released hw hchanges rfl rfl
  -- Here and behind a step that succeeds the observer is told while the session is still taken.
  | @records run outer block hw hblock hplain hrunning hchanges =>
      have hboundary : run.boundary (w.session run.session).machine = .plain block := by
        rw [boundary_of_running hblock hrunning, hplain]
        rfl
      exact h.told hw hchanges rfl rfl fun f hf => .passing hw hboundary hf
  | succeeds hw hblock hchanges => exact h.told hw hchanges rfl rfl fun f hf => .afterStep hw hf
  | begins hw hblock hdirective hrunning hchanges => exact h.goOn hw hchanges rfl (.inr ⟨_, hblock⟩) rfl rfl
  | works hw hwork hchanges hhost =>
      obtain ⟨-, -, hframes, -⟩ := h.stack (stack_of_ready hw)
      have h' := h.goOn (b := w.BreaksOff (.move (.turn t))) hw hchanges rfl
        ((hframes.inStep Point.noConfusion _).placed _ List.mem_cons_self) rfl rfl
      exact h'
  | waits hw hchanges =>
      obtain ⟨-, -, hframes, -⟩ := h.stack (stack_of_ready hw)
      exact h.goOn hw hchanges rfl ((hframes.inStep Point.noConfusion _).placed _ List.mem_cons_self) rfl rfl
  | refused hw hchanges =>
      obtain ⟨-, -, hframes, -⟩ := h.stack (stack_of_ready hw)
      exact h.goOn hw hchanges rfl ((hframes.inStep Point.noConfusion _).placed _ List.mem_cons_self) rfl rfl
  | enters hw hentered hsessions hstacks =>
      obtain ⟨ht, hstack, hframes, -⟩ := h.stack (stack_of_ready hw)
      obtain ⟨w₀, d, hpass, hn, hfree, hs⟩ := hentered.takes_free h
      rw [hsessions, hs, hstacks]
      refine hpass.trans ((h.pass hpass).take ht hn hfree
        ((hframes.inStep Point.noConfusion _).push ⟨_, _, rfl⟩ (.inl rfl)) ?_ rfl rfl)
      rw [hstack]
      rfl
  | turnedAway hw hentered hsessions hstacks =>
      obtain ⟨ht, hstack, hframes, -⟩ := h.stack (stack_of_ready hw)
      have hpass := hentered.handsOver (b := w.BreaksOff (.move (.turn t))) h
      rw [hsessions, hstacks]
      exact hpass.trans ((h.pass hpass).restack ht (hframes.inStep Point.noConfusion _) (by rw [hstack]; rfl))
  | commands hw hcarried hsessions hstacks =>
      obtain ⟨ht, hstack, hframes, -⟩ := h.stack (stack_of_ready hw)
      have hpass := hcarried.handsOver (b := w.BreaksOff (.move (.turn t))) h
      rw [hsessions, hstacks]
      exact hpass.trans ((h.pass hpass).restack ht (hframes.inStep Point.noConfusion _) (by rw [hstack]; rfl))

end Turns

/-! ### Cancelled and started tasks -/

section Tasks

variable {w : Workbench} {t : Nat}

/-- A run in progress is stopped. -/
theorem halt_touches {n : Nat} (htaken : (w.session n).machine.phase.isTaken = true) :
    ∃ m : Machine, m.phase = .stopped ∧ Touches w n (fun s => { s with machine := m }) (w.halt n) := by
  unfold halt
  by_cases hactive : (w.session n).machine.isActive = true
  · have hstop : (w.session n).machine.act .stop = .ok ((w.session n).machine.stop.1, _) := rfl
    rw [if_pos hactive, tryAct_of_ok hstop]
    refine ⟨_, ?_, touches_moved ..⟩
    rw [Machine.stop_of_active hactive]
  · rw [if_neg hactive]
    refine ⟨(w.session n).machine, ?_, (touches_refl w n).congr rfl⟩
    by_contra hstop
    exact hactive (Machine.isActive_of_isTaken htaken fun h => hstop (Machine.isStopRequested_iff.1 h))

/-- A cancelled run leaves its session idle. -/
theorem abandon_touches {f : Frame} (htaken : (w.session f.run.session).machine.phase.isTaken = true) :
    ∃ m : Machine, m.phase = .idle ∧ m.isOwned = false ∧
      Touches w f.run.session (fun s => { s with highlights := .none, machine := m }) (w.abandon f) := by
  have hn := Sessions.lt_length_of_taken htaken
  have hclear := touches_highlight w f.run.session .clear
  obtain ⟨m, hm, hhalt⟩ := halt_touches (w := w.highlight f.run.session .clear) (n := f.run.session)
    (by rw [hclear.session hn]; exact htaken)
  have hhalted := hclear.trans hhalt
  have hphase : (((w.highlight f.run.session .clear).halt f.run.session).session f.run.session).machine = m := by
    rw [hhalted.session hn]
    rfl
  have hstop : m.act .completeStop = .ok (m.released .idle, none) := by
    rw [Machine.act, Machine.completeStop_eq hm]
    rfl
  obtain ⟨hact, hmoved⟩ := hhalted.act hn hstop
  unfold abandon tryAct
  dsimp only
  rw [if_pos (Machine.isStopRequested_iff.2 (hphase ▸ hm)), hact]
  exact ⟨m.released .idle, rfl, rfl, hmoved.congr rfl⟩

/-- What a cancelled task leaves behind. -/
theorem cancel_eq (w : Workbench) (t : Nat) :
    w.stack t = [] ∧ (w.cancel t).1 = w ∨
      t < w.allStacks.length ∧ ∃ v : Workbench, v.sessions = w.sessions ∧ v.allStacks = w.allStacks.set t [] ∧
        (w.cancel t).1 = (w.stack t).foldl abandon v := by
  unfold cancel
  dsimp only
  by_cases hover : (w.task t).isOver = true
  · rw [if_pos hover]
    refine .inl ⟨?_, rfl⟩
    unfold stack
    cases hw : w.task t with
    | ended o => rfl
    | ready | atGate | paused =>
        rw [hw] at hover
        cases hover
  · rw [if_neg hover]
    refine .inr ⟨?_, _, ?_, ?_, rfl⟩
    · by_contra ht
      have hlength : w.tasks.length ≤ t := by
        rw [← List.length_map TaskState.frames]
        exact Nat.le_of_not_lt ht
      rw [task, List.getD_eq_getElem?_getD, List.getElem?_eq_none hlength] at hover
      exact hover rfl
    · rfl
    · exact stacks_setTask ..

theorem move_start (w : Workbench) (o : Order) : w.move (.start o) = ((w.enter o).1.addTask (w.enter o).2).1 := rfl

/-- An order from outside gets a task of its own, also if it is not carried out. -/
theorem start_cases (w : Workbench) (o : Order) :
    (∃ f w₁, Entered w o w₁ (.error f) ∧ w.admitted o = [] ∧ (w.move (.start o)).sessions = w₁.sessions ∧
      (w.move (.start o)).allStacks = w.allStacks ++ [[]]) ∨
    ∃ run w₁, Entered w o w₁ (.ok run) ∧ w.admitted o = [.started run.session] ∧
      (w.move (.start o)).sessions = w₁.sessions ∧
      (w.move (.start o)).allStacks = w.allStacks ++ [[⟨run, .boundary⟩]] := by
  have hentered := enter_entered w o
  rw [move_start, admitted]
  cases henter : w.enter o with
  | mk w₁ result =>
      rw [henter] at hentered
      cases result with
      | error f =>
          refine .inl ⟨f, w₁, hentered, rfl, rfl, ?_⟩
          rw [← hentered.allStacks]
          exact List.map_append
      | ok run =>
          refine .inr ⟨run, w₁, hentered, rfl, rfl, ?_⟩
          rw [← hentered.allStacks]
          exact List.map_append

end Tasks

/-! ### Every move -/

section Serving

variable {w : Workbench} {b : Nat → Prop}

/-- The innermost run of a cancelled task leaves. -/
theorem abandon_handsOver {t : Nat} {allStacks : List (List Frame)} (ht : t < allStacks.length) {f : Frame}
    {outer : List Frame} (h : Tenured w.sessions (allStacks.set t (f :: outer))) :
    HandsOver (fun _ => False) w.sessions (allStacks.set t (f :: outer)) (w.abandon f).sessions
        (allStacks.set t outer) ∧
      ∃ m : Machine, m.phase = .idle ∧ m.isOwned = false ∧ f.run.session < w.sessions.made.length ∧
        Touches w f.run.session (fun s => { s with highlights := .none, machine := m }) (w.abandon f) := by
  have ht' : t < (allStacks.set t (f :: outer)).length := by rwa [List.length_set]
  have hstack : (allStacks.set t (f :: outer)).getD t [] = f :: outer := by
    rw [List.getD_eq_getElem?_getD, List.getElem?_set_self ht, Option.getD_some]
  have hmem : f :: outer ∈ allStacks.set t (f :: outer) := List.mem_set ht _
  have htaken := h.taken hmem List.mem_cons_self
  obtain ⟨m, hphase, hfree, htouches⟩ := abandon_touches htaken
  have hsound : m.IsSound := by
    rw [Machine.IsSound, hfree, hphase]
    rfl
  have hpass := h.leave (b := fun _ => False) (g := fun s => { s with highlights := .none, machine := m }) ht' hstack
    (h.nested _ hmem).tail rfl fun howned => .releases howned hsound hfree
  rw [List.set_set] at hpass
  refine ⟨?_, m, hphase, hfree, Sessions.lt_length_of_taken htaken, htouches⟩
  rw [htouches.sessions]
  exact hpass

/-- The runs of a cancelled task leave one after the other, the innermost first. -/
theorem abandon_all_handsOver {t : Nat} {allStacks : List (List Frame)} (ht : t < allStacks.length)
    {frames : List Frame} (h : Tenured w.sessions (allStacks.set t frames)) :
    HandsOver (fun _ => False) w.sessions (allStacks.set t frames) (frames.foldl abandon w).sessions
        (allStacks.set t []) ∧
      (frames.foldl abandon w).allStacks = w.allStacks := by
  induction frames generalizing w with
  | nil => exact ⟨h.refl, rfl⟩
  | cons f outer ih =>
      obtain ⟨hpass, _, -, -, -, htouches⟩ := abandon_handsOver ht h
      obtain ⟨hrest, hstacks⟩ := ih (h.pass hpass)
      exact ⟨hpass.trans hrest, hstacks.trans htouches.allStacks⟩

theorem cancel_handsOver (h : Tenured w.sessions w.allStacks) (t : Nat) :
    HandsOver b w.sessions w.allStacks (w.cancel t).1.sessions (w.cancel t).1.allStacks := by
  rcases cancel_eq w t with ⟨-, hw⟩ | ⟨ht, v, hsessions, hstacks, hw⟩
  · rw [hw]
    exact h.refl
  · rw [← set_stack w t, ← hsessions] at h
    obtain ⟨hpass, hrest⟩ := abandon_all_handsOver ht h
    rw [set_stack w t, hsessions] at hpass
    rw [hw, hrest, hstacks]
    exact hpass.imp fun _ => False.elim

/-- A run that takes a session that nobody has gets a task of its own. -/
theorem Tenured.takeTask {s : Sessions} {allStacks : List (List Frame)} (h : Tenured s allStacks) {run : Run}
    {g : Session → Session} (hn : run.session < s.made.length) (hfree : (s.get run.session).machine.isOwned = false)
    (hsound : (g (s.get run.session)).machine.IsSound) (howned : (g (s.get run.session)).machine.isOwned = true) :
    HandsOver (fun _ => False) s allStacks (s.update run.session g) (allStacks ++ [[⟨run, .boundary⟩]]) := by
  have hadd := h.addTask (b := fun _ => False)
  have hframes : IsNested [⟨run, .boundary⟩] :=
    ⟨fun f hf => by rw [List.mem_singleton.1 hf]; exact .inl rfl, fun f hf => absurd hf List.not_mem_nil⟩
  have hholders :
      holders [⟨run, .boundary⟩] = run.session :: holders ((allStacks ++ [[]]).getD allStacks.length []) := by
    simp [holders]
  rw [append_eq_set]
  exact hadd.trans ((h.pass hadd).take (by simp) hn hfree hframes hholders hsound howned)

theorem start_handsOver (h : Tenured w.sessions w.allStacks) (o : Order) :
    HandsOver b w.sessions w.allStacks (w.move (.start o)).sessions (w.move (.start o)).allStacks := by
  rcases start_cases w o with ⟨f, w₁, hentered, -, hsessions, hstacks⟩ | ⟨run, w₁, hentered, -, hsessions, hstacks⟩
  · have hpass := hentered.handsOver (b := b) h
    rw [hsessions, hstacks]
    exact hpass.trans (h.pass hpass).addTask
  · obtain ⟨w₀, d, hpass, hn, hfree, hs⟩ := hentered.takes_free (b := b) h
    rw [hsessions, hs, hstacks]
    exact hpass.trans ((h.pass hpass).takeTask hn hfree rfl rfl)

/-- A run apart takes an idle session, or nothing but opening the session comes of it. -/
theorem enterApart_cases (w : Workbench) (o : Order) (root : Path) (blocksOnly rests : Bool) :
    (∃ f, w.enterApart o root blocksOnly rests = (w, .error f)) ∨
    ∃ w₀ n, Opened w o.id w₀ n ∧
      ((∃ f, w.enterApart o root blocksOnly rests = (w₀, .error f)) ∨
        ∃ w₁ run, w.enterApart o root blocksOnly rests = (w₁, .ok run) ∧ run.session = n ∧
          (w₀.session n).machine.isOwned = false ∧ w₁.allStacks = w.allStacks ∧
          w₁.sessions = w₀.sessions.update n fun s =>
            { s with
              machine := { s.machine with phase := .running, isOwned := true, mayPass := true }
              client := s.client.map (·.reset) }) := by
  unfold enterApart
  cases hopen : w.openSession o.id with
  | error f => exact .inl ⟨f, rfl⟩
  | ok result =>
      obtain ⟨w₀, n⟩ := result
      have hopened := opened_of_ok hopen
      refine .inr ⟨w₀, n, hopened, ?_⟩
      dsimp only
      split
      · rename_i v run hstart
        have hstarted : w₀.start n ⟨n, (Document.parse o.text).blocks, 0, [], root, false, o.observer, false, rests⟩
            = .ok (v, run) := by
          cases blocksOnly with
          | true => exact hstart
          | false =>
              obtain ⟨u, -, hstart⟩ := bind_eq_ok hstart
              exact hstart
        obtain ⟨rfl, hfree, -, hsessions, hstacks, -⟩ := start_eq_ok hstarted
        exact .inr ⟨v, _, rfl, rfl, hfree, hstacks.trans hopened.allStacks, hsessions⟩
      · rename_i f hstart
        exact .inl ⟨f, rfl⟩

theorem serve_apart (w : Workbench) (o : Order) (root : Path) (blocksOnly rests : Bool) :
    w.serve (.apart o root blocksOnly rests) =
      ((w.enterApart o root blocksOnly rests).1.addTask (w.enterApart o root blocksOnly rests).2).1 := rfl

theorem apart_handsOver (h : Tenured w.sessions w.allStacks) (o : Order) (root : Path) (blocksOnly rests : Bool) :
    HandsOver b w.sessions w.allStacks (w.serve (.apart o root blocksOnly rests)).sessions
      (w.serve (.apart o root blocksOnly rests)).allStacks := by
  have herror : ∀ (v : Workbench) (f : Failure), (v.addTask (.error f)).1.sessions = v.sessions ∧
      (v.addTask (.error f)).1.allStacks = v.allStacks ++ [[]] := fun v f => ⟨rfl, List.map_append⟩
  rw [serve_apart]
  rcases enterApart_cases w o root blocksOnly rests with ⟨f, hf⟩ | ⟨w₀, n, hopened, hcases⟩
  · rw [hf, (herror w f).1, (herror w f).2]
    exact h.addTask
  obtain ⟨hpass, hn⟩ := hopened.handsOver (b := b) h
  rcases hcases with ⟨f, hf⟩ | ⟨w₁, run, hrun, rfl, hfree, hstacks, hsessions⟩
  · rw [hf, (herror w₀ f).1, (herror w₀ f).2, hopened.allStacks]
    exact hpass.trans (h.pass hpass).addTask
  · have hadded : (w₁.addTask (.ok run)).1.allStacks = w.allStacks ++ [[⟨run, .boundary⟩]] := by
      rw [← hstacks]
      exact List.map_append
    rw [hrun, hadded]
    change HandsOver b w.sessions w.allStacks w₁.sessions _
    rw [hsessions]
    exact hpass.trans ((h.pass hpass).takeTask hn hfree rfl rfl)

/-- What is true of the sessions stays true when the runs of a cancelled task leave, if it does when any one leaves. -/
theorem Tenured.abandoned {p : Sessions → Prop} {t : Nat} {allStacks : List (List Frame)} (ht : t < allStacks.length)
    {frames : List Frame} (h : Tenured w.sessions (allStacks.set t frames)) (hp : p w.sessions)
    (hleaves : ∀ s, ∀ f ∈ frames, ∀ m : Machine, p s → f.run.session < s.made.length → m.phase = .idle →
      p (s.update f.run.session fun x => { x with highlights := .none, machine := m })) :
    p (frames.foldl abandon w).sessions := by
  induction frames generalizing w with
  | nil => exact hp
  | cons f outer ih =>
      obtain ⟨hpass, m, hphase, -, hn, htouches⟩ := abandon_handsOver ht h
      refine ih (h.pass hpass) ?_ fun s g hg => hleaves s g (List.mem_cons_of_mem _ hg)
      rw [htouches.sessions]
      exact hleaves _ f List.mem_cons_self m hp hn hphase

theorem Tenured.cancelled {p : Sessions → Prop} (h : Tenured w.sessions w.allStacks) (t : Nat) (hp : p w.sessions)
    (hleaves : ∀ s, ∀ f ∈ w.stack t, ∀ m : Machine, p s → f.run.session < s.made.length → m.phase = .idle →
      p (s.update f.run.session fun x => { x with highlights := .none, machine := m })) :
    p (w.cancel t).1.sessions := by
  rcases cancel_eq w t with ⟨-, hw⟩ | ⟨ht, v, hsessions, -, hw⟩
  · rw [hw]
    exact hp
  · rw [← set_stack w t, ← hsessions] at h
    rw [← hsessions] at hp
    rw [hw]
    exact h.abandoned ht hp hleaves

/-- What a move makes of the sessions. -/
inductive Served (w : Workbench) : HostMove → Sessions → Prop
  | stays {d : HostMove} : Served w d w.sessions
  | turns {t : Nat} {w' : Workbench} {es : List Happening} (h : Turn w t w' es) : Served w (.move (.turn t)) w'.sessions
  | requests {c : Command} {w' : Workbench} {es : List Happening} (h : Carried w c w' es) :
      Served w (.move (.request c)) w'.sessions
  | starts {o : Order} {w' : Workbench} {result : Except Failure Run} (h : Entered w o w' result) :
      Served w (.move (.start o)) w'.sessions
  | opens {id : String} {w' : Workbench} {n : Nat} (h : Opened w id w' n) :
      Served w (.move (.openSession id)) w'.sessions
  | parses {id text : String} {w' : Workbench} {n : Nat} (h : Opened w id w' n) :
      Served w (.move (.parse id text))
        (w'.sessions.update n fun s => { s with lastParse := some (Document.parse text) })
  | opensApart {o : Order} {root : Path} {blocksOnly rests : Bool} {w' : Workbench} {n : Nat} (h : Opened w o.id w' n) :
      Served w (.apart o root blocksOnly rests) w'.sessions
  | startsApart {o : Order} {root : Path} {blocksOnly rests : Bool} {w' : Workbench} {n : Nat} (h : Opened w o.id w' n)
      (hfree : (w'.session n).machine.isOwned = false) :
      Served w (.apart o root blocksOnly rests) (w'.sessions.update n fun s =>
        { s with
          machine := { s.machine with phase := .running, isOwned := true, mayPass := true }
          client := s.client.map (·.reset) })
  | cancels {t : Nat} : Served w (.move (.cancel t)) (w.cancel t).1.sessions

theorem served_apart (w : Workbench) (o : Order) (root : Path) (blocksOnly rests : Bool) :
    Served w (.apart o root blocksOnly rests) (w.serve (.apart o root blocksOnly rests)).sessions := by
  rw [serve_apart]
  rcases enterApart_cases w o root blocksOnly rests with ⟨f, hf⟩ | ⟨w₀, n, hopened, hcases⟩
  · rw [hf]
    exact .stays
  rcases hcases with ⟨f, hf⟩ | ⟨w₁, run, hrun, -, hfree, -, hsessions⟩
  · rw [hf]
    have hopens : Served w (.apart o root blocksOnly rests) w₀.sessions := .opensApart hopened
    exact hopens
  · rw [hrun]
    change Served w _ w₁.sessions
    rw [hsessions]
    exact .startsApart hopened hfree

theorem Tenured.served (h : Tenured w.sessions w.allStacks) (d : HostMove) : Served w d (w.serve d).sessions := by
  cases d with
  | apart o root blocksOnly rests => exact served_apart w o root blocksOnly rests
  | move m =>
      change Served w (.move m) (w.move m).sessions
      cases m with
      | turn t => exact .turns (h.turn t)
      | rouse =>
          rw [(move_rouse w).1]
          exact .stays
      | request c =>
          rcases move_request w c with hcarried | ⟨hw, -⟩
          · exact .requests hcarried
          · rw [hw]
            exact .stays
      | start o =>
          rcases start_cases w o with ⟨f, w₁, hentered, -, hsessions, -⟩ | ⟨run, w₁, hentered, -, hsessions, -⟩
          · rw [hsessions]
            exact .starts hentered
          · rw [hsessions]
            exact .starts hentered
      | openSession id =>
          rcases move_openSession w id with ⟨n, hopened⟩ | hw
          · exact .opens hopened
          · rw [hw]
            exact .stays
      | parse id text =>
          rcases move_parse w id text with ⟨w₀, n, hopened, -, hsessions⟩ | hw
          · rw [hsessions]
            exact .parses hopened
          · rw [hw]
            exact .stays
      | release gate =>
          rw [(move_release w gate).1]
          exact .stays
      | cancel t => exact .cancels

/-- In every move each session is handed over, and a run is broken off only by a callback that fails. -/
theorem serve_handsOver (h : Tenured w.sessions w.allStacks) (d : HostMove) :
    HandsOver (w.BreaksOff d) w.sessions w.allStacks (w.serve d).sessions (w.serve d).allStacks := by
  cases d with
  | apart o root blocksOnly rests => exact apart_handsOver h o root blocksOnly rests
  | move m =>
      change HandsOver _ w.sessions w.allStacks (w.move m).sessions (w.move m).allStacks
      cases m with
      | turn t => exact (h.turn t).handsOver h
      | rouse =>
          obtain ⟨hsessions, hstacks⟩ := move_rouse w
          rw [hsessions, hstacks]
          exact h.refl
      | request c =>
          rcases move_request w c with hcarried | ⟨hw, -⟩
          · rw [hcarried.allStacks]
            exact hcarried.handsOver h
          · rw [hw]
            exact h.refl
      | start o => exact start_handsOver h o
      | openSession id =>
          rcases move_openSession w id with ⟨n, hopened⟩ | hw
          · rw [hopened.allStacks]
            exact (hopened.handsOver h).1
          · rw [hw]
            exact h.refl
      | parse id text =>
          rcases move_parse w id text with ⟨w₀, n, hopened, hstacks, hsessions⟩ | hw
          · obtain ⟨hpass, hn⟩ := hopened.handsOver (b := w.BreaksOff (.move (.parse id text))) h
            have h₀ := h.pass hpass
            rw [hstacks, hsessions]
            exact hpass.trans (h₀.touch hn (h₀.keeps n))
          · rw [hw]
            exact h.refl
      | release gate =>
          obtain ⟨hsessions, hstacks⟩ := move_release w gate
          rw [hsessions, hstacks]
          exact h.refl
      | cancel t => exact cancel_handsOver h t

theorem following_tenured (h : Tenured w.sessions w.allStacks) (ds : List HostMove) :
    Tenured (w.following ds).sessions (w.following ds).allStacks := by
  induction ds generalizing w with
  | nil => exact h
  | cons d ds ih => exact ih (h.pass (serve_handsOver h d))

theorem new_tenured (registry : Registry) (settings : Settings) (client : Option Client) (host : Host) :
    Tenured (new registry settings client host).sessions (new registry settings client host).allStacks where
  ids p hp := absurd hp List.not_mem_nil
  machines n := by
    rw [Sessions.get_of_length_le _ (Nat.zero_le n)]
    exact Machine.new_isSound ""
  owners n := Nat.zero_le _
  nested frames hframes := absurd hframes List.not_mem_nil

end Serving

end Workbench

end Playbook
