import Playbook.Proofs.Execution.Transitions
import Mathlib.Data.List.Induction
/-!
# Who still waits

A waiter ought to be blocked only while the machine is paused. What it is blocked by is the boundary being shut, and the
two part in one way only: `finish` ends a pause and leaves the boundary shut, so whoever slept there sleeps on in an idle
machine until a start or a reset opens the boundary. Every other way out of a pause opens it.
-/

namespace Playbook

/-! ### Waiters -/

namespace Waiter

/-- The waiter has not come back from the boundary. -/
def isBlocked : Waiter → Bool
  | arrived | asleep | woken => true
  | passed _ => false

theorem wake_ne_asleep (x : Waiter) : x.wake ≠ asleep := by
  cases x <;> nofun

variable {m : Machine} {x : Waiter}

/-- Who is still blocked after a look at the machine has fallen asleep. -/
theorem look_of_isBlocked (h : (x.look m).isBlocked = true) : x.look m = asleep := by
  cases x with
  | asleep => rfl
  | passed goesOn => cases h
  | arrived | woken =>
      by_cases hpaused : m.phase = .paused
      · simp [look, hpaused]
      · simp [look, hpaused, isBlocked] at h

theorem look_eq_asleep (h : x.look m = asleep) : x = asleep ∨ m.phase = .paused := by
  cases x with
  | asleep => exact .inl rfl
  | passed goesOn => cases h
  | arrived | woken =>
      by_cases hpaused : m.phase = .paused
      · exact .inr hpaused
      · simp [look, hpaused] at h

end Waiter

namespace Monitor

variable {o : Monitor} {a : Action} {m : Machine} {reply : Option Bool}

/-! ### Sleepers -/

/-- Who sleeps, sleeps at a boundary that is shut. -/
structure IsQuiet (o : Monitor) : Prop where
  guarded : o.machine.IsGuarded
  shut : .asleep ∈ o.waiters → o.machine.mayPass = false

theorem new_isQuiet (session : String) (listeners : Nat) : (new session listeners).IsQuiet :=
  ⟨Machine.new_isGuarded session, nofun⟩

theorem IsQuiet.act (h : o.IsQuiet) (a : Action) : (o.act a).1.IsQuiet := by
  cases hact : o.machine.act a with
  | error r =>
      rw [act_of_error hact]
      exact h
  | ok result =>
      obtain ⟨m, reply⟩ := result
      have hmachine := machine_act hact
      refine ⟨by rw [hmachine]; exact (Machine.acted_of_ok h.guarded.sound hact).isGuarded h.guarded, ?_⟩
      intro hmem
      rw [waiters_act hact] at hmem
      rw [hmachine]
      split at hmem
      · obtain ⟨x, -, hx⟩ := List.mem_map.1 hmem
        exact absurd hx x.wake_ne_asleep
      · rename_i hopens
        simpa [Machine.opens, h.shut hmem] using hopens

theorem IsQuiet.settle (h : o.IsQuiet) : o.settle.IsQuiet where
  guarded := h.guarded
  shut hmem := by
    obtain ⟨x, hx, hlook⟩ := List.mem_map.1 hmem
    rcases Waiter.look_eq_asleep hlook with rfl | hpaused
    · exact h.shut hx
    · exact h.guarded.shut hpaused

theorem IsQuiet.feed (h : o.IsQuiet) (i : Input) : (o.feed i).IsQuiet := by
  cases i with
  | act a => exact h.act a
  | arrive => exact ⟨h.guarded, fun hmem => h.shut (by simpa [Monitor.feed, arrive] using hmem)⟩
  | settle => exact h.settle

theorem IsQuiet.fed (h : o.IsQuiet) (is : List Input) : (o.fed is).IsQuiet := by
  induction is generalizing o with
  | nil => exact h
  | cons i is ih => exact ih (h.feed i)

/-- Only a shut boundary blocks. -/
theorem IsQuiet.shut_of_isBlocked (h : o.IsQuiet) {x : Waiter} (hx : x ∈ o.settle.waiters) (hblocked : x.isBlocked = true) :
    o.machine.mayPass = false := by
  obtain ⟨y, -, rfl⟩ := List.mem_map.1 hx
  rw [Waiter.look_of_isBlocked hblocked] at hx
  exact h.settle.shut hx

/-! ### A pause that was finished -/

/-- The machine was paused when it was told to finish, and since then nobody has tried to start or reset it. -/
structure Stranded (o : Monitor) (before after : List Input) : Prop where
  paused : (o.fed before).machine.phase = .paused
  noStart : .act .start ∉ after
  noReset : .act .reset ∉ after

theorem Stranded.concat {before after : List Input} (h : o.Stranded before after) {i : Input} (hstart : i ≠ .act .start)
    (hreset : i ≠ .act .reset) : o.Stranded before (after ++ [i]) where
  paused := h.paused
  noStart := by simp [h.noStart, hstart.symm]
  noReset := by simp [h.noReset, hreset.symm]

/-- An idle machine can be started and reset. -/
theorem act_ne_error_of_idle (hidle : o.machine.phase = .idle) (hs : o.machine.IsSound) {r : Refusal}
    (h : o.machine.act a = .error r) : a ≠ .start ∧ a ≠ .reset := by
  have hactive : o.machine.isActive = false := by
    rw [Machine.isActive, hidle]
    rfl
  have hfree : o.machine.isOwned = false := by
    rw [hs, hidle]
    rfl
  constructor
  · rintro rfl
    rw [Machine.act, Machine.start_eq_ok.2 ⟨hfree, hidle, rfl⟩] at h
    cases h
  · rintro rfl
    rw [Machine.act, Machine.reset_eq_ok.2 ⟨hactive, hfree, rfl⟩] at h
    cases h

/-- The boundary is shut while the machine is paused, and after a pause that was finished. -/
theorem IsQuiet.paused_or_stranded (h : o.IsQuiet) (hopen : o.machine.mayPass = true) (is : List Input)
    (hshut : (o.fed is).machine.mayPass = false) :
    (o.fed is).machine.phase = .paused ∨
      (o.fed is).machine.phase = .idle ∧ ∃ before after, is = before ++ .act .finish :: after ∧ o.Stranded before after := by
  induction is using List.reverseRecOn with
  | nil => cases hopen.symm.trans hshut
  | append_singleton is i ih =>
      have hsound := (h.fed is).guarded.sound
      -- What neither starts nor resets the machine and leaves it as it is leaves it stranded.
      have hstays : i ≠ .act .start → i ≠ .act .reset → (o.fed (is ++ [i])).machine = (o.fed is).machine →
          (o.fed (is ++ [i])).machine.phase = .paused ∨ (o.fed (is ++ [i])).machine.phase = .idle ∧
            ∃ before after, is ++ [i] = before ++ .act .finish :: after ∧ o.Stranded before after := by
        intro hstart hreset hsame
        rw [hsame] at hshut ⊢
        rcases ih hshut with hpaused | ⟨hidle, before, after, rfl, hstranded⟩
        · exact .inl hpaused
        · exact .inr ⟨hidle, before, after ++ [i], by simp, hstranded.concat hstart hreset⟩
      rw [fed_concat] at hshut hstays ⊢
      cases i with
      | arrive | settle => exact hstays nofun nofun rfl
      | act a =>
          change ((o.fed is).act a).1.machine.mayPass = false at hshut
          cases hact : (o.fed is).machine.act a with
          | error r =>
              have hsame : (o.fed is).feed (.act a) = o.fed is := by rw [Monitor.feed, act_of_error hact]
              rw [act_of_error hact] at hshut
              rw [hsame] at hstays ⊢
              rcases ih hshut with hpaused | ⟨hidle, -⟩
              · exact .inl hpaused
              · obtain ⟨hstart, hreset⟩ := act_ne_error_of_idle hidle hsound hact
                exact hstays (by simpa using hstart) (by simpa using hreset) rfl
          | ok result =>
              obtain ⟨m, reply⟩ := result
              have hmachine : ((o.fed is).feed (.act a)).machine = m := machine_act hact
              rw [machine_act hact] at hshut
              rw [hmachine] at hstays ⊢
              cases Machine.acted_of_ok hsound hact with
              | start | resume | stop | fail | reset => cases hshut
              | pause => exact .inl rfl
              | stillPaused hp => exact .inl hp
              | nothingToStop => exact hstays nofun nofun rfl
              | completeStop hp =>
                  rcases ih hshut with hphase | ⟨hphase, -⟩
                  · cases hp.symm.trans hphase
                  · cases hp.symm.trans hphase
              | finish hp =>
                  rcases ih hshut with hpaused | ⟨hidle, -⟩
                  · exact .inr ⟨rfl, is, [], rfl, hpaused, List.not_mem_nil, List.not_mem_nil⟩
                  · rw [Machine.isActive, hidle] at hp
                    cases hp

/-! ### Sleeping on -/

/-- A waiter sleeps at the shut boundary of an idle machine. -/
structure SleepsOn (o : Monitor) (k : Nat) : Prop where
  sound : o.machine.IsSound
  idle : o.machine.phase = .idle
  shut : o.machine.mayPass = false
  asleep : o.waiters[k]? = some Waiter.asleep

/-- An idle machine that nobody starts or resets takes nothing but a stop that stops nothing. -/
theorem SleepsOn.act {k : Nat} (h : o.SleepsOn k) (hstart : a ≠ .start) (hreset : a ≠ .reset) : (o.act a).1 = o := by
  cases hact : o.machine.act a with
  | error r => rw [act_of_error hact]
  | ok result =>
      obtain ⟨m, reply⟩ := result
      have hidle := h.idle
      cases Machine.acted_of_ok h.sound hact with
      | start | reset => contradiction
      | pause hp | stillPaused hp | resume hp | completeStop hp => cases hidle.symm.trans hp
      | stop hp | finish hp =>
          rw [Machine.isActive, hidle] at hp
          cases hp
      | fail hp =>
          rw [hidle] at hp
          cases hp
      | nothingToStop hinactive =>
          rw [Machine.act, Machine.stop_of_not_active hinactive] at hact
          refine act_eq_self (.inr ?_)
          cases hact
          exact reply_act (by rw [Machine.act, Machine.stop_of_not_active hinactive])

theorem SleepsOn.feed {k : Nat} (h : o.SleepsOn k) {i : Input} (hstart : i ≠ .act .start) (hreset : i ≠ .act .reset) :
    (o.feed i).SleepsOn k := by
  cases i with
  | act a =>
      rw [Monitor.feed, h.act (by simpa using hstart) (by simpa using hreset)]
      exact h
  | arrive =>
      refine ⟨h.sound, h.idle, h.shut, ?_⟩
      obtain ⟨hk, -⟩ := List.getElem?_eq_some_iff.1 h.asleep
      show (o.waiters ++ [.arrived])[k]? = some Waiter.asleep
      rw [List.getElem?_append_left hk, h.asleep]
  | settle =>
      refine ⟨h.sound, h.idle, h.shut, ?_⟩
      show (o.waiters.map _)[k]? = some Waiter.asleep
      rw [List.getElem?_map, h.asleep]
      rfl

theorem SleepsOn.fed {k : Nat} (h : o.SleepsOn k) {is : List Input} (hstart : .act .start ∉ is)
    (hreset : .act .reset ∉ is) : (o.fed is).SleepsOn k := by
  induction is generalizing o with
  | nil => exact h
  | cons i is ih =>
      rw [List.mem_cons, not_or] at hstart hreset
      exact ih (h.feed (Ne.symm hstart.1) (Ne.symm hreset.1)) hstart.2 hreset.2

/-- Finishing leaves the boundary of a paused machine shut. -/
theorem IsQuiet.sleepsOn_finish (h : o.IsQuiet) (hpaused : o.machine.phase = .paused) {k : Nat}
    (hk : o.waiters[k]? = some Waiter.asleep) : (o.act .finish).1.SleepsOn k := by
  have hactive : o.machine.isActive = true := by
    rw [Machine.isActive, hpaused]
    rfl
  have hshut := h.guarded.shut hpaused
  have hact : o.machine.act .finish = .ok (o.machine.released .idle, none) := by
    rw [Machine.act, Machine.finish_eq hactive]
    rfl
  refine ⟨by rw [machine_act hact]; rfl, by rw [machine_act hact]; rfl, by rw [machine_act hact]; exact hshut, ?_⟩
  rw [waiters_act hact, if_neg]
  · exact hk
  · simp [Machine.opens, Machine.released, hshut]

/-- Who is blocked when nobody can move any more is blocked by a pause, or by one that was finished and after which the
machine is idle; and who slept when a pause was finished stays blocked until somebody starts or resets the machine. -/
theorem fed_blocked (session : String) (listeners : Nat) (is : List Input) :
    let o := (new session listeners).fed is
    (∀ x ∈ o.settle.waiters, x.isBlocked = true → o.machine.phase = .paused ∨
      o.machine.phase = .idle ∧
        ∃ before after, is = before ++ .act .finish :: after ∧ (new session listeners).Stranded before after) ∧
    ∀ before after, is = before ++ .act .finish :: after → (new session listeners).Stranded before after →
      ∀ k : Nat, ((new session listeners).fed before).waiters[k]? = some Waiter.asleep →
        o.machine.phase = .idle ∧ o.settle.waiters[k]? = some Waiter.asleep := by
  intro o
  have hnew := new_isQuiet session listeners
  constructor
  · intro x hx hblocked
    exact hnew.paused_or_stranded rfl is ((hnew.fed is).shut_of_isBlocked hx hblocked)
  · rintro before after rfl hstranded k hk
    have hfinish := (hnew.fed before).sleepsOn_finish hstranded.paused hk
    have hafter : o.SleepsOn k := by
      show ((new session listeners).fed (before ++ .act .finish :: after)).SleepsOn k
      rw [fed_append]
      exact hfinish.fed hstranded.noStart hstranded.noReset
    have hsettled : o.settle.SleepsOn k := hafter.feed (i := .settle) nofun nofun
    exact ⟨hafter.idle, hsettled.asleep⟩

/-- A waiter sleeps on when the pause is finished. -/
theorem not_paused_of_blocked :
    ¬∀ is, ∀ x ∈ ((new "s" 1).fed is).settle.waiters, x.isBlocked = true →
      ((new "s" 1).fed is).machine.phase = .paused := by
  intro h
  have hpaused := h [.act .start, .act .pause, .arrive, .settle, .act .finish] .asleep (by decide) rfl
  revert hpaused
  decide

end Monitor

end Playbook
