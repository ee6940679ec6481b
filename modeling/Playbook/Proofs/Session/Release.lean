import Playbook.Proofs.Session.Admission
/-!
# Leaving a session

A run that leaves hands its session back, whichever way it leaves: with a report, cancelled while it waits or rests,
or with the failure of a callback that is told of its end. The session is idle or failed then, and whoever comes next
can reset it or run in it. There is one exception, a callback that fails when it is told of a block: the run is gone,
but its session stays taken for ever.
-/

namespace Playbook.Workbench

variable {w w' : Workbench} {n : Nat}

/-! ### A session that was handed back -/

structure Released (w : Workbench) (n : Nat) : Prop where
  unowned : (w.session n).machine.isOwned = false
  phase : (w.session n).machine.phase = .idle ∨ (w.session n).machine.phase = .failed
  /-- A reset is granted, and after it any playbook that can be run. -/
  resets : ∀ id clear, w.sessions.number? id = some n → ∃ v, w.carryOut (.reset id clear) = .ok (v, .done) ∧
    ∀ o : Order, o.id = id → (Document.parse o.text).isExecutable = true → ∃ v', v.enter o = (v', .ok (v.ordered n o))
  /-- An idle session needs no reset. -/
  runs : (w.session n).machine.phase = .idle → ∀ o : Order, w.sessions.number? o.id = some n →
    (Document.parse o.text).isExecutable = true → ∃ v, w.enter o = (v, .ok (w.ordered n o))

theorem reset_of_free (h : Tenured w.sessions w.allStacks) (hfree : (w.session n).machine.isOwned = false) {id : String}
    (clear : Bool) (hn : w.sessions.number? id = some n) :
    ∃ v, w.carryOut (.reset id clear) = .ok (v, .done) ∧ v.sessions.number? id = some n ∧
      (v.session n).machine = { (w.session n).machine with phase := .idle, mayPass := true } := by
  have hactive : (w.session n).machine.isActive = false := by
    rcases Machine.phase_of_free (h.machines n) hfree with hp | hp
    · rw [Machine.isActive, session_eq, hp]
      rfl
    · rw [Machine.isActive, session_eq, hp]
      rfl
  have hreset := Machine.reset_eq_ok.2 ⟨hactive, hfree, rfl⟩
  have hact : (w.session n).machine.act .reset
      = .ok ({ (w.session n).machine with phase := .idle, mayPass := true }, none) := by
    rw [Machine.act, hreset]
    rfl
  obtain ⟨v, hv⟩ : ∃ v, w.reset id clear = .ok v := by
    simp only [reset, require_eq_ok.2 hn, bind, Except.bind, act_of_ok hact]
    exact ⟨_, rfl⟩
  have hcarry : w.carryOut (.reset id clear) = (w.reset id clear).bind fun v => .ok (v, .done) := rfl
  refine ⟨v, by rw [hcarry, hv]; rfl, ?_⟩
  cases reset_carried hv with
  | reset hk hm hsessions hstacks =>
      cases hn.symm.trans hk
      cases hreset.symm.trans hm
      refine ⟨by rw [hsessions]; exact hn, ?_⟩
      rw [session_eq, hsessions, Sessions.get_update_same _ _ (h.ids.lt_of_number? hn)]
      cases clear <;> rfl

theorem released_of_free (h : Tenured w.sessions w.allStacks) (hfree : (w.session n).machine.isOwned = false) :
    Released w n where
  unowned := hfree
  phase := Machine.phase_of_free (h.machines n) hfree
  resets id clear hn := by
    obtain ⟨v, hv, hvn, hmachine⟩ := reset_of_free h hfree clear hn
    refine ⟨v, hv, ?_⟩
    rintro o rfl hgood
    exact enter_of_idle hvn (by rw [hmachine]; exact hfree) (by rw [hmachine]) hgood
  runs hidle o hn hgood := enter_of_idle hn hfree hidle hgood

/-! ### A session that lost its run -/

/-- Nobody is there to hand the session back, so everybody is turned away. -/
structure Orphaned (w : Workbench) (n : Nat) : Prop where
  owned : (w.session n).machine.isOwned = true
  nobody : loops w.allStacks n = 0
  run_refused : ∀ o, w.sessions.number? o.id = some n →
    ∃ r, r.isConflict = true ∧ w.enter o = (w, .error (.refused r))
  reset_refused : ∀ id clear, w.sessions.number? id = some n → ∃ r, w.carryOut (.reset id clear) = .error (.refused r)

theorem orphaned_of_owned (howned : (w.session n).machine.isOwned = true) (hnobody : loops w.allStacks n = 0) :
    Orphaned w n :=
  ⟨howned, hnobody, fun _ hn => ⟨_, rfl, enter_of_owned hn howned⟩, fun _ clear hn => reset_of_owned clear hn howned⟩

theorem Handover.of_orphaned {b : Prop} {m m' : Machine} {k : Nat} (h : Handover b (m, 0) (m', k))
    (howned : m.isOwned = true) : m'.isOwned = true ∧ k = 0 := by
  cases h with
  | keeps hkeeps => exact ⟨hkeeps.owner.trans howned, rfl⟩
  | takes hfree =>
      rw [howned] at hfree
      cases hfree

theorem Orphaned.serve (h : Tenured w.sessions w.allStacks) (ho : Orphaned w n) (d : HostMove) :
    Orphaned (w.serve d) n := by
  have hover := (serve_handsOver h d).handover n
  rw [ho.nobody] at hover
  obtain ⟨howned, hnobody⟩ := hover.of_orphaned ho.owned
  exact orphaned_of_owned howned hnobody

theorem Orphaned.following (h : Tenured w.sessions w.allStacks) (ho : Orphaned w n) (ds : List HostMove) :
    Orphaned (w.following ds) n := by
  induction ds generalizing w with
  | nil => exact ho
  | cons d ds ih => exact ih (h.pass (serve_handsOver h d)) (ho.serve h d)

theorem boundary_eq_plain {run : Run} {m : Machine} {block : Block} (h : run.boundary m = .plain block) :
    run.blocks[run.next]? = some block ∧ block.isDirective = false ∧ m.phase ≠ .paused ∧ ¬m.isStopRequested = true := by
  unfold Run.boundary at h
  split at h
  · rename_i b hblock
    split at h
    · cases h
    rename_i hpaused
    split at h
    · cases h
    rename_i hstop
    split at h
    · cases h
    rename_i hplain
    cases h
    exact ⟨hblock, by simpa using hplain, hpaused, hstop⟩
  · split at h <;> cases h

/-- A run that breaks off leaves the machine as it is. -/
theorem BreaksOff.machine {d : HostMove} (h : Tenured w.sessions w.allStacks) (hb : w.BreaksOff d n) :
    ((w.serve d).session n).machine = (w.session n).machine := by
  cases hb with
  | passing hw hplain hf =>
      obtain ⟨-, -, -, htaken⟩ := h.stack (stack_of_ready hw)
      obtain ⟨hblock, hdirective, hpaused, hstop⟩ := boundary_eq_plain hplain
      exact (step_records hw hblock hdirective (Machine.running_of_isTaken htaken hpaused hstop)).machine fun _ => rfl
  | @afterStep t run outer pending messages f hw hf =>
      obtain ⟨-, -, hframes, -⟩ := h.stack (stack_of_ready hw)
      obtain hpoint | ⟨block, hblock⟩ := hframes.placed _ List.mem_cons_self
      · cases hpoint
      · exact (step_succeeds hw hblock).machine fun _ => rfl

/-! ### Every way to leave -/

theorem Handover.of_left {b : Prop} {m m' : Machine} (h : Handover b (m, 1) (m', 0)) (hb : ¬b) :
    m'.isOwned = false := by
  cases h with
  | releases howned hsound hfree => exact hfree
  | breaks hbroken => exact absurd hbroken hb

/-- A run that was in progress and is not after the move has handed its session back, unless it broke off. -/
theorem following_releases (registry : Registry) (settings : Settings) (client : Option Client) (host : Host)
    (ds : List HostMove) (d : HostMove) (n : Nat)
    (hrun : loops ((new registry settings client host).following ds).allStacks n = 1)
    (hover : loops (((new registry settings client host).following ds).serve d).allStacks n = 0) :
    (¬((new registry settings client host).following ds).BreaksOff d n →
        Released (((new registry settings client host).following ds).serve d) n) ∧
      (((new registry settings client host).following ds).BreaksOff d n →
        ∀ ds', Orphaned ((((new registry settings client host).following ds).serve d).following ds') n) := by
  have h := following_tenured (new_tenured registry settings client host) ds
  generalize (new registry settings client host).following ds = w at hrun hover h ⊢
  have hhands := serve_handsOver h d
  have h' := h.pass hhands
  have hhandover := hhands.handover n
  rw [hrun, hover] at hhandover
  refine ⟨fun hkept => released_of_free h' (hhandover.of_left hkept), fun hbroken ds' => ?_⟩
  -- Breaking off does nothing to the machine, so it still has the owner that the run was.
  have howned : ((w.serve d).session n).machine.isOwned = true := by
    rw [hbroken.machine h]
    exact h.owned_of_loops (by omega)
  exact (orphaned_of_owned howned hover).following h' ds'

/-- A run that is cancelled in its step. -/
theorem held_released :
    loops (Held.bench.following [.move (.start Held.order), .move (.turn 0), .move (.turn 0)]).allStacks 0 = 1 ∧
      loops ((Held.bench.following [.move (.start Held.order), .move (.turn 0), .move (.turn 0)]).serve
        (.move (.cancel 0))).allStacks 0 = 0 ∧
      Released ((Held.bench.following [.move (.start Held.order), .move (.turn 0), .move (.turn 0)]).serve
        (.move (.cancel 0))) 0 := by
  have hrun : loops (Held.bench.following
      [.move (.start Held.order), .move (.turn 0), .move (.turn 0)]).allStacks 0 = 1 := by decide +kernel
  have hover : loops ((Held.bench.following [.move (.start Held.order), .move (.turn 0), .move (.turn 0)]).serve
      (.move (.cancel 0))).allStacks 0 = 0 := by decide +kernel
  have hkept : ¬(Held.bench.following [.move (.start Held.order), .move (.turn 0), .move (.turn 0)]).BreaksOff
      (.move (.cancel 0)) 0 := nofun
  exact ⟨hrun, hover, (following_releases _ _ _ _ _ _ _ hrun hover).1 hkept⟩

/-- A run whose observer fails at the first block is gone, and its session is taken. -/
theorem not_released_of_progress :
    ¬∀ (ds : List HostMove) (d : HostMove) (n : Nat), loops (Held.bench.following ds).allStacks n = 1 →
      loops ((Held.bench.following ds).serve d).allStacks n = 0 →
        (((Held.bench.following ds).serve d).session n).machine.isOwned = false := by
  intro h
  let o : Order := ⟨"s", "hello", ⟨true, [(.progress, .noSession "s")]⟩⟩
  have hleft := h [.move (.start o)] (.move (.turn 0)) 0 (by decide +kernel) (by decide +kernel)
  revert hleft
  decide +kernel

end Playbook.Workbench
