import Playbook.Execution.Boundary
import Playbook.Proofs.Execution.Machine
/-!
# Histories of a monitor

A monitor is fed with actions, with waiters that arrive and with moments at which everybody who can move does, in any
order. Its machine then walks along the edges of one small graph of phases, and every listener hears of this walk, step by
step. An action that is turned down, or finds nothing to stop, leaves no trace at all. What carries the proofs is
`Machine.Acted`: all that an action can do to a sound machine.
-/

namespace Playbook

/-! ### The graph of phases -/

namespace Phase

/-- The changes of phase that there are. -/
def edges : List (Phase × Phase) :=
  [(idle, running), (running, paused), (paused, running), (running, stopped), (paused, stopped), (stopped, idle),
    (running, idle), (paused, idle), (running, failed), (paused, failed), (stopped, failed), (failed, idle)]

/-- Changes that lead from one phase to another along edges, each from where the one before it led to. -/
inductive Path (p : Phase) : List (Phase × Phase) → Phase → Prop
  | nil : Path p [] p
  | snoc {q r : Phase} {changes : List (Phase × Phase)} (h : Path p changes q) (hedge : (q, r) ∈ edges) :
      Path p (changes ++ [(q, r)]) r

/-- Every change is one. -/
theorem ne_of_mem_edges : ∀ c ∈ edges, c.1 ≠ c.2 := by decide

theorem Path.mem_edges {p q : Phase} {changes : List (Phase × Phase)} (h : Path p changes q) :
    ∀ c ∈ changes, c ∈ edges := by
  induction h with
  | nil => simp
  | snoc h hedge ih =>
      intro c hc
      rcases List.mem_append.1 hc with hc | hc
      · exact ih c hc
      · rw [List.mem_singleton.1 hc]
        exact hedge

end Phase

/-! ### What an action does -/

namespace Machine

/-- What becomes of a machine that takes an action. -/
inductive Acted (m : Machine) : Action → Machine → Prop
  | start (h : m.phase = .idle) : Acted m .start { m with phase := .running, isOwned := true, mayPass := true }
  | pause (h : m.phase = .running) : Acted m .pause { m with phase := .paused, mayPass := false }
  | stillPaused (h : m.phase = .paused) : Acted m .pause m
  | resume (h : m.phase = .paused) : Acted m .resume { m with phase := .running, mayPass := true }
  | stop (h : m.isActive = true) : Acted m .stop { m with phase := .stopped, mayPass := true }
  | nothingToStop (h : m.isActive = false) : Acted m .stop m
  | completeStop (h : m.phase = .stopped) : Acted m .completeStop (m.released .idle)
  | finish (h : m.isActive = true) : Acted m .finish (m.released .idle)
  | fail (h : m.phase.isTaken = true) : Acted m .fail { m.released .failed with mayPass := true }
  | reset (h : m.phase = .idle ∨ m.phase = .failed) : Acted m .reset { m with phase := .idle, mayPass := true }

variable {m m' : Machine} {a : Action} {reply : Option Bool}

theorem acted_of_ok (hs : m.IsSound) (h : m.act a = .ok (m', reply)) : m.Acted a m' := by
  rcases m with ⟨session, phase, owned, pass⟩
  obtain rfl : owned = phase.isTaken := hs
  cases a <;> cases phase <;> cases h
  case start.idle => exact .start rfl
  case pause.running => exact .pause rfl
  case pause.paused => exact .stillPaused rfl
  case resume.paused => exact .resume rfl
  case completeStop.stopped => exact .completeStop rfl
  case reset.idle => exact .reset (.inl rfl)
  case reset.failed => exact .reset (.inr rfl)
  case stop.idle | stop.stopped | stop.failed => exact .nothingToStop rfl
  case stop.running | stop.paused => exact .stop rfl
  case finish.running | finish.paused => exact .finish rfl
  case fail.running | fail.paused | fail.stopped => exact .fail rfl

/-- A sound machine that lets nobody pass while it is paused. -/
structure IsGuarded (m : Machine) : Prop where
  sound : m.IsSound
  shut : m.phase = .paused → m.mayPass = false

/-- Only a paused machine has anybody to hold back. -/
theorem isGuarded_of_phase (hsound : m.IsSound) (hphase : (m.phase == .paused) = false) : m.IsGuarded where
  sound := hsound
  shut hpaused := absurd hpaused (beq_eq_false_iff_ne.1 hphase)

theorem new_isGuarded (session : String) : (new session).IsGuarded := isGuarded_of_phase rfl rfl

theorem Acted.isGuarded (h : m.Acted a m') (hm : m.IsGuarded) : m'.IsGuarded := by
  cases h with
  | stillPaused | nothingToStop => exact hm
  | pause hp => exact ⟨by rw [IsSound, hm.sound, hp]; rfl, fun _ => rfl⟩
  | resume hp => exact isGuarded_of_phase (by rw [IsSound, hm.sound, hp]; rfl) rfl
  | stop hp => exact isGuarded_of_phase (by rw [IsSound, hm.sound, isTaken_of_isActive hp]; rfl) rfl
  | reset hp =>
      have howned : m.isOwned = false := by
        rw [hm.sound]
        rcases hp with hp | hp
        · rw [hp]
          rfl
        · rw [hp]
          rfl
      exact isGuarded_of_phase howned rfl
  | start | completeStop | finish | fail => exact isGuarded_of_phase rfl rfl

/-- The phase stays, or moves along an edge. -/
theorem Acted.edge (h : m.Acted a m') : m.phase = m'.phase ∨ (m.phase, m'.phase) ∈ Phase.edges := by
  cases h with
  | stillPaused | nothingToStop => exact .inl rfl
  | start hp | pause hp | resume hp => simp [hp, Phase.edges]
  | completeStop hp => simp [hp, released, Phase.edges]
  | stop hp | finish hp | fail hp =>
      cases hphase : m.phase <;> simp_all [isActive, Phase.isActive, Phase.isTaken, released, Phase.edges]
  | reset hp =>
      rcases hp with hp | hp
      · exact .inl hp
      · simp [hp, Phase.edges]

/-- Only a stop tells anything. -/
theorem map_none_ne {x : Except Refusal Machine} {b : Bool} :
    x.map (·, (none : Option Bool)) ≠ .ok (m', some b) := by
  cases x with
  | error r => nofun
  | ok m => nofun

/-- A stop that finds nothing to stop leaves the machine alone. -/
theorem eq_of_act_eq_false (h : m.act a = .ok (m', some false)) : m' = m := by
  cases a with
  | stop =>
      simp only [act, Except.ok.injEq, Prod.mk.injEq, Option.some.injEq] at h
      obtain ⟨rfl, hfound⟩ := h
      rw [stop_snd] at hfound
      rw [stop_of_not_active hfound]
  | start | pause | resume | completeStop | finish | fail | reset => exact absurd h map_none_ne

theorem change?_self : m.change? m = none := if_pos rfl

end Machine

/-! ### Feeding a monitor -/

namespace Monitor

inductive Input where
  | act (a : Action)
  | arrive
  /-- Everybody at the boundary who can move does. -/
  | settle

def feed (o : Monitor) : Input → Monitor
  | .act a => (o.act a).1
  | .arrive => o.arrive
  | .settle => o.settle

def fed (o : Monitor) (is : List Input) : Monitor := is.foldl feed o

/-- The changes that a listener heard of, the oldest first. -/
def heardBy (o : Monitor) (k : Nat) : List (Phase × Phase) := (o.heard.filter (·.1 = k)).map (·.2)

variable {o : Monitor} {a : Action} {m : Machine} {reply : Option Bool}

@[simp] theorem fed_nil : o.fed [] = o := rfl

theorem fed_append (o : Monitor) (is is' : List Input) : o.fed (is ++ is') = (o.fed is).fed is' := List.foldl_append

theorem fed_concat (o : Monitor) (is : List Input) (i : Input) : o.fed (is ++ [i]) = (o.fed is).feed i :=
  fed_append o is [i]

/-! An action that is taken -/

theorem act_of_error {r : Refusal} (h : o.machine.act a = .error r) : o.act a = (o, .error r) := by
  unfold act
  simp only [h]

theorem machine_act (h : o.machine.act a = .ok (m, reply)) : (o.act a).1.machine = m := by
  unfold act
  simp only [h]

theorem waiters_act (h : o.machine.act a = .ok (m, reply)) :
    (o.act a).1.waiters = if o.machine.opens m then o.waiters.map Waiter.wake else o.waiters := by
  unfold act
  simp only [h]

theorem reply_act (h : o.machine.act a = .ok (m, reply)) : (o.act a).2 = .ok reply := by
  unfold act
  simp only [h]

theorem listeners_act (o : Monitor) (a : Action) : (o.act a).1.listeners = o.listeners := by
  unfold act
  split
  · rfl
  · rfl

theorem listeners_feed (o : Monitor) (i : Input) : (o.feed i).listeners = o.listeners := by
  cases i with
  | act a => exact listeners_act o a
  | arrive | settle => rfl

theorem listeners_fed (o : Monitor) (is : List Input) : (o.fed is).listeners = o.listeners := by
  induction is generalizing o with
  | nil => rfl
  | cons i is ih => exact (ih (o.feed i)).trans (listeners_feed o i)

theorem filter_range_map {α : Type} (n k : Nat) (c : α) :
    ((List.range n).map (·, c)).filter (·.1 = k) = if k < n then [(k, c)] else [] := by
  induction n with
  | zero => simp
  | succ n ih =>
      rw [List.range_succ, List.map_append, List.filter_append, ih]
      rcases Nat.lt_trichotomy k n with hlt | rfl | hgt
      · simp [hlt, Nat.lt_succ_of_lt hlt, Nat.ne_of_gt hlt]
      · simp
      · have hnot : ¬k < n + 1 := by omega
        simp [hnot, Nat.lt_asymm hgt, Nat.ne_of_lt hgt]

/-- Every listener hears of the change of phase, if there is one. -/
theorem heardBy_act (h : o.machine.act a = .ok (m, reply)) {k : Nat} (hk : k < o.listeners) :
    (o.act a).1.heardBy k = o.heardBy k ++ (o.machine.change? m).toList := by
  unfold act heardBy
  simp only [h]
  cases o.machine.change? m with
  | none => simp
  | some change => simp [filter_range_map, hk]

/-- An action that is turned down, or finds nothing to stop, leaves everything as it is. -/
theorem act_eq_self (h : (∃ r, (o.act a).2 = .error r) ∨ (o.act a).2 = .ok (some false)) : (o.act a).1 = o := by
  cases hact : o.machine.act a with
  | error r => rw [act_of_error hact]
  | ok result =>
      obtain ⟨m, reply⟩ := result
      rw [reply_act hact] at h
      obtain ⟨r, hr⟩ | hfalse := h
      · cases hr
      · cases hfalse
        obtain rfl := Machine.eq_of_act_eq_false hact
        unfold act
        simp [hact, Machine.change?_self, Machine.opens]

/-! ### What listeners hear -/

/-- The machine is guarded, and every listener has heard of the path that it took. -/
structure IsHeard (o : Monitor) : Prop where
  guarded : o.machine.IsGuarded
  path : ∃ changes, Phase.Path .idle changes o.machine.phase ∧ ∀ k < o.listeners, o.heardBy k = changes

theorem new_isHeard (session : String) (listeners : Nat) : (new session listeners).IsHeard :=
  ⟨Machine.new_isGuarded session, [], .nil, fun _ _ => rfl⟩

theorem IsHeard.act (h : o.IsHeard) (a : Action) : (o.act a).1.IsHeard := by
  cases hact : o.machine.act a with
  | error r =>
      rw [act_of_error hact]
      exact h
  | ok result =>
      obtain ⟨m, reply⟩ := result
      obtain ⟨changes, hpath, hheard⟩ := h.path
      have hacted := Machine.acted_of_ok h.guarded.sound hact
      have hmachine := machine_act hact
      refine ⟨by rw [hmachine]; exact hacted.isGuarded h.guarded,
        changes ++ (o.machine.change? m).toList, ?_, fun k hk => ?_⟩
      · rw [hmachine]
        by_cases hsame : o.machine.phase = m.phase
        · rw [Machine.change?, if_pos hsame, ← hsame]
          simpa using hpath
        · rw [Machine.change?, if_neg hsame]
          exact hpath.snoc (hacted.edge.resolve_left hsame)
      · rw [listeners_act] at hk
        rw [heardBy_act hact hk, hheard k hk]

theorem IsHeard.feed (h : o.IsHeard) (i : Input) : (o.feed i).IsHeard := by
  cases i with
  | act a => exact h.act a
  | arrive | settle => exact ⟨h.guarded, h.path⟩

theorem IsHeard.fed (h : o.IsHeard) (is : List Input) : (o.fed is).IsHeard := by
  induction is generalizing o with
  | nil => exact h
  | cons i is ih => exact ih (h.feed i)

/-- Whatever a monitor is fed with, all its listeners have heard of the same path, which leads from idleness to where the
machine is. What is turned down leaves no trace, and the machine always knows whether a run has it, and lets nobody pass
while it is paused. -/
theorem fed_heard (session : String) (listeners : Nat) (is : List Input) :
    let o := (new session listeners).fed is
    (∃ changes, Phase.Path .idle changes o.machine.phase ∧ (∀ c ∈ changes, c.1 ≠ c.2) ∧
      ∀ k < listeners, o.heardBy k = changes) ∧
    (∀ a, ((∃ r, (o.act a).2 = .error r) ∨ (o.act a).2 = .ok (some false)) → (o.act a).1 = o) ∧
    (o.machine.isOwned = true ↔
      o.machine.phase = .running ∨ o.machine.phase = .paused ∨ o.machine.phase = .stopped) ∧
    (o.machine.phase = .paused → o.machine.mayPass = false) := by
  intro o
  have h : o.IsHeard := (new_isHeard session listeners).fed is
  have hlisteners : o.listeners = listeners := listeners_fed _ is
  obtain ⟨changes, hpath, hheard⟩ := h.path
  refine ⟨⟨changes, hpath, fun c hc => Phase.ne_of_mem_edges c (hpath.mem_edges c hc), ?_⟩, fun a ha => act_eq_self ha,
    ?_, h.guarded.shut⟩
  · intro k hk
    exact hheard k (hlisteners ▸ hk)
  · have hsound : o.machine.isOwned = o.machine.phase.isTaken := h.guarded.sound
    rw [hsound]
    cases o.machine.phase <;> simp [Phase.isTaken]

end Monitor

end Playbook
