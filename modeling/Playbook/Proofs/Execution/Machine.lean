import Playbook.Execution.Machine
/-!
# When a machine moves

For each action when the machine takes it and what the machine is then. A run has the machine while it runs, is
paused or is stopping; `IsSound` says that the machine's own note of an owner agrees, and every action keeps it.
-/

namespace Playbook

/-- Whether a run has the session: it goes on, waits, or is to leave at its next boundary. -/
def Phase.isTaken : Phase → Bool
  | .running | .paused | .stopped => true
  | .idle | .failed => false

namespace Machine

/-- A machine notes an owner just while a run has it. -/
def IsSound (m : Machine) : Prop := m.isOwned = m.phase.isTaken

/-- The machine after the run that had it left. -/
def released (m : Machine) (p : Phase) : Machine := { m with phase := p, isOwned := false }

theorem new_isSound (session : String) : (new session).IsSound := rfl

variable {m m' : Machine}

/-! ### Actions of runs -/

theorem start_eq_ok : m.start = .ok m' ↔
    m.isOwned = false ∧ m.phase = .idle ∧ m' = { m with phase := .running, isOwned := true, mayPass := true } := by
  rcases m with ⟨session, phase, owned, pass⟩
  cases phase <;> cases owned <;> simp [start, isActive, Phase.isActive, eq_comm]

theorem completeStop_eq (h : m.phase = .stopped) : m.completeStop = .ok (m.released .idle) := by
  simp only [completeStop, h, released]

theorem finish_eq (h : m.isActive = true) : m.finish = .ok (m.released .idle) := by
  simp only [finish, h, if_true, released]

theorem fail_eq (h : m.phase.isTaken = true) : m.fail = .ok { m.released .failed with mayPass := true } := by
  rcases m with ⟨session, phase, owned, pass⟩
  cases phase <;> simp_all [fail, released, isActive, Phase.isActive, isStopRequested, Phase.isTaken]

theorem start_of_failed (hfree : m.isOwned = false) (hfailed : m.phase = .failed) :
    m.start = .error (.cannotStart .failed) := by
  rcases m with ⟨session, phase, owned, pass⟩
  cases hfree
  cases hfailed
  rfl

/-! ### Requests -/

theorem pause_eq_ok : m.pause = .ok m' ↔
    m.phase = .paused ∧ m' = m ∨ m.phase = .running ∧ m' = { m with phase := .paused, mayPass := false } := by
  rcases m with ⟨session, phase, owned, pass⟩
  cases phase <;> simp [pause, eq_comm]

theorem resume_eq_ok : m.resume = .ok m' ↔ m.phase = .paused ∧ m' = { m with phase := .running, mayPass := true } := by
  rcases m with ⟨session, phase, owned, pass⟩
  cases phase <;> simp [resume, eq_comm]

theorem stop_of_active (h : m.isActive = true) : m.stop = ({ m with phase := .stopped, mayPass := true }, true) := by
  simp only [stop, h, if_true]

theorem stop_of_not_active (h : m.isActive = false) : m.stop = (m, false) := by
  simp only [stop, h, Bool.false_eq_true, if_false]

/-- A stop tells whether there was a run to stop. -/
theorem stop_snd : m.stop.2 = m.isActive := by
  cases h : m.isActive with
  | true => rw [stop_of_active h]
  | false => rw [stop_of_not_active h]

theorem reset_eq_ok : m.reset = .ok m' ↔
    m.isActive = false ∧ m.isOwned = false ∧ m' = { m with phase := .idle, mayPass := true } := by
  rcases m with ⟨session, phase, owned, pass⟩
  cases phase <;> cases owned <;> simp [reset, isActive, Phase.isActive, eq_comm]

/-- While a run has the machine, a reset is turned down. -/
theorem reset_of_owned (h : m.isOwned = true) : ∃ r, m.reset = .error r := by
  cases hr : m.reset with
  | error r => exact ⟨r, rfl⟩
  | ok m' =>
      have hfree := (reset_eq_ok.1 hr).2.1
      rw [h] at hfree
      cases hfree

/-! ### Phases of a machine that a run has -/

theorem isStopRequested_iff : m.isStopRequested = true ↔ m.phase = .stopped := by
  simp [isStopRequested]

theorem isTaken_of_isActive (h : m.isActive = true) : m.phase.isTaken = true := by
  rcases m with ⟨session, phase, owned, pass⟩
  cases phase <;> simp_all [isActive, Phase.isActive, Phase.isTaken]

theorem isActive_of_isTaken (h : m.phase.isTaken = true) (hstop : ¬m.isStopRequested = true) : m.isActive = true := by
  rcases m with ⟨session, phase, owned, pass⟩
  cases phase <;> simp_all [isActive, isStopRequested, Phase.isActive, Phase.isTaken]

theorem running_of_isTaken (h : m.phase.isTaken = true) (hpaused : m.phase ≠ .paused)
    (hstop : ¬m.isStopRequested = true) : m.phase = .running := by
  rcases m with ⟨session, phase, owned, pass⟩
  cases phase <;> simp_all [isStopRequested, Phase.isTaken]

/-- A sound machine that nobody has is idle or failed. -/
theorem phase_of_free (hs : m.IsSound) (hfree : m.isOwned = false) : m.phase = .idle ∨ m.phase = .failed := by
  rw [IsSound, hfree] at hs
  cases hp : m.phase <;> simp_all [Phase.isTaken]

theorem free_of_failed (hs : m.IsSound) (hfailed : m.phase = .failed) : m.isOwned = false := by
  rw [hs, hfailed]
  rfl

/-! ### The owner

A request never changes the owner, and a sound machine stays sound. -/

/-- The machine after a change that left the owner alone. -/
structure KeepsOwner (m m' : Machine) : Prop where
  sound : m'.IsSound
  owner : m'.isOwned = m.isOwned

theorem keepsOwner_of_phase (hs : m.IsSound) {p : Phase} {pass : Bool} (hp : p.isTaken = m.phase.isTaken) :
    m.KeepsOwner { m with phase := p, mayPass := pass } :=
  ⟨Eq.trans hs hp.symm, rfl⟩

theorem keepsOwner_pause (hs : m.IsSound) (h : m.pause = .ok m') : m.KeepsOwner m' := by
  rcases pause_eq_ok.1 h with ⟨-, rfl⟩ | ⟨hp, rfl⟩
  · exact ⟨hs, rfl⟩
  · exact keepsOwner_of_phase hs (by rw [hp]; rfl)

theorem keepsOwner_resume (hs : m.IsSound) (h : m.resume = .ok m') : m.KeepsOwner m' := by
  obtain ⟨hp, rfl⟩ := resume_eq_ok.1 h
  exact keepsOwner_of_phase hs (by rw [hp]; rfl)

theorem keepsOwner_stop (hs : m.IsSound) : m.KeepsOwner m.stop.1 := by
  cases h : m.isActive with
  | true =>
      rw [stop_of_active h]
      exact keepsOwner_of_phase hs (by rw [isTaken_of_isActive h]; rfl)
  | false =>
      rw [stop_of_not_active h]
      exact ⟨hs, rfl⟩

theorem keepsOwner_reset (hs : m.IsSound) (h : m.reset = .ok m') : m.KeepsOwner m' := by
  obtain ⟨-, hfree, rfl⟩ := reset_eq_ok.1 h
  exact keepsOwner_of_phase hs (by rw [← hs, hfree]; rfl)

end Machine

end Playbook
