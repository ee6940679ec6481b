import Playbook.Proofs.Session.Stage
/-!
# One run for a session

After every history a session has at most one run, it has one just while its machine says so, and its phase tells
the same. So whoever wants to run or reset a session that has a run is turned away, be it from outside or from
within a step, also while the last step of a stopped run is still going on, and no session changes.
-/

namespace Playbook

/-! ### Counting starts and ends -/

namespace Happening

def isStart (n : Nat) : Happening → Bool
  | started m => m == n
  | _ => false

def isEnd (n : Nat) : Happening → Bool
  | left m _ => m == n
  | _ => false

end Happening

namespace Stage

def runs : Stage → Nat
  | free => 0
  | going .. | failing _ => 1

variable {n : Nat} {st st' : Stage}

theorem Step.runs_eq {e : Happening} (h : Step n st e st') :
    (if e.isStart n then 1 else 0) + st.runs = (if e.isEnd n then 1 else 0) + st'.runs := by
  cases h with
  | other h =>
      cases e <;> simp_all [Happening.isStart, Happening.isEnd, Happening.session]
  | _ => simp [Happening.isStart, Happening.isEnd, runs]

/-- Along a path as many runs start as leave, but for the one that is still there. -/
theorem Path.runs_eq {es : List Happening} (h : Path n st es st') :
    es.countP (·.isStart n) + st.runs = es.countP (·.isEnd n) + st'.runs := by
  induction h with
  | nil => rfl
  | cons hstep hes ih =>
      have hone := hstep.runs_eq
      rw [List.countP_cons, List.countP_cons]
      omega

end Stage

namespace Workbench

/-! ### Turning others away -/

variable {w : Workbench} {n : Nat}

/-- A run on a session that has one is turned away before anything changes. -/
theorem enter_of_owned {o : Order} (hn : w.sessions.number? o.id = some n)
    (howned : (w.session n).machine.isOwned = true) :
    w.enter o = (w, .error (.refused (.busy (w.session n).machine.phase o.id))) := by
  have hopen : w.openSession o.id = .ok (w, n) := by
    unfold openSession
    rw [hn]
  unfold enter
  rw [hopen]
  simp only [howned, if_true]

theorem reset_of_owned {id : String} (clear : Bool) (hn : w.sessions.number? id = some n)
    (howned : (w.session n).machine.isOwned = true) : ∃ r, w.carryOut (.reset id clear) = .error (.refused r) := by
  obtain ⟨r, hr⟩ := Machine.reset_of_owned howned
  have hact : (w.session n).machine.act .reset = .error r := by
    rw [Machine.act, hr]
    rfl
  have hreset : w.reset id clear = .error (.refused r) := by
    unfold reset
    rw [require_eq_ok.2 hn]
    simp only [bind, Except.bind, act_of_error hact]
  have hcarry : w.carryOut (.reset id clear) = (w.reset id clear).bind fun v => .ok (v, .done) := rfl
  refine ⟨r, ?_⟩
  rw [hcarry, hreset]
  rfl

/-- A command that takes a session that nobody else has. -/
inductive Contends : Command → Prop
  | run (id text : String) : Contends (.run id text)
  | reset (id : String) (clear : Bool) : Contends (.reset id clear)

/-- A step that asks for a session that has a run learns of a refusal and goes on, and no session changes. -/
theorem step_of_contends {t : Nat} {run : Run} {outer : List Frame} {pending : List Message} {c : Command}
    {next : Except Failure Answer → Activity (List Message)}
    (hw : w.task t = .ready (⟨run, .working pending (.command c next)⟩ :: outer)) (hc : Contends c)
    (hn : w.sessions.number? c.session = some n) (howned : (w.session n).machine.isOwned = true) :
    ∃ r, (w.step t).sessions = w.sessions ∧
      (w.step t).stack t = ⟨run, .working pending (next (.error (.refused r)))⟩ :: outer := by
  have ht := lt_length_of_ready w hw
  have hstay : ∀ r, w.step t = w.stay t run outer pending (next (.error (.refused r))) →
      ∃ r, (w.step t).sessions = w.sessions ∧
        (w.step t).stack t = ⟨run, .working pending (next (.error (.refused r)))⟩ :: outer := by
    intro r hr
    refine ⟨r, by rw [hr]; rfl, ?_⟩
    rw [hr, stay, stack, task_setTask_same _ _ ht]
    rfl
  rw [step_working hw] at hstay ⊢
  cases hc with
  | run id text =>
      refine hstay (.busy (w.session n).machine.phase id) ?_
      have henter : w.enter ⟨id, text, .nobody⟩ = (w, _) := enter_of_owned hn howned
      rw [stepActivity_run, henter]
  | reset id clear =>
      change w.sessions.number? id = some n at hn
      obtain ⟨r, hr⟩ := reset_of_owned clear hn howned
      refine hstay r ?_
      rw [stepActivity_command (by simp), hr]

/-! ### One run for a session -/

/-- What holds of a session and its runs after the happenings `es`. -/
structure Exclusive (w : Workbench) (es : List Happening) (n : Nat) : Prop where
  atMostOne : loops w.allStacks n ≤ 1
  one_iff : loops w.allStacks n = 1 ↔ (w.session n).machine.isOwned = true
  owned_iff : (w.session n).machine.isOwned = true ↔ (w.session n).machine.phase = .running ∨
    (w.session n).machine.phase = .paused ∨ (w.session n).machine.phase = .stopped
  /-- The runs in progress are those that started and have not left. -/
  balanced : es.countP (·.isStart n) = es.countP (·.isEnd n) + loops w.allStacks n
  /-- While the session has a run, another one conflicts with it. -/
  run_refused : loops w.allStacks n = 1 → ∀ o, w.sessions.number? o.id = some n →
    (∃ r, r.isConflict = true ∧ w.enter o = (w, .error (.refused r))) ∧ (w.move (.start o)).sessions = w.sessions
  reset_refused : loops w.allStacks n = 1 → ∀ id clear, w.sessions.number? id = some n →
    (∃ r, w.carryOut (.reset id clear) = .error (.refused r)) ∧ w.move (.request (.reset id clear)) = w
  /-- The same goes for a step that asks for the session. -/
  step_refused : loops w.allStacks n = 1 → ∀ t run outer pending c next,
    w.task t = .ready (⟨run, .working pending (.command c next)⟩ :: outer) → Contends c →
    w.sessions.number? c.session = some n →
    ∃ r, (w.step t).sessions = w.sessions ∧
      (w.step t).stack t = ⟨run, .working pending (next (.error (.refused r)))⟩ :: outer

theorem isTaken_iff {p : Phase} : p.isTaken = true ↔ p = .running ∨ p = .paused ∨ p = .stopped := by
  cases p <;> simp [Phase.isTaken]

/-- The stage of a session tells how many runs it has. -/
theorem Consistent.runs_eq {s : Sessions} {allStacks : List (List Frame)} (h : Consistent s allStacks) (n : Nat) :
    (stage s allStacks n).runs = loops allStacks n := by
  rw [h.owners, stage, Machine.stage]
  split
  · rfl
  · rfl

theorem new_loops (registry : Registry) (settings : Settings) (client : Option Client) (host : Host) (n : Nat) :
    loops (new registry settings client host).allStacks n = 0 := rfl

theorem exclusive_of_consistent {es : List Happening} (h : Consistent w.sessions w.allStacks)
    (hbalanced : es.countP (·.isStart n) = es.countP (·.isEnd n) + loops w.allStacks n) : Exclusive w es n := by
  have howners := h.owners n
  have hone : loops w.allStacks n = 1 ↔ (w.session n).machine.isOwned = true := by
    rw [howners, session_eq]
    cases (w.sessions.get n).machine.isOwned <;> simp
  refine ⟨?_, hone, ?_, hbalanced, ?_, ?_, ?_⟩
  · rw [howners]
    split
    · exact Nat.le_refl 1
    · exact Nat.zero_le 1
  · have hsound : (w.session n).machine.isOwned = (w.session n).machine.phase.isTaken := h.machines n
    rw [hsound, isTaken_iff]
  · intro hrun o hn
    have henter := enter_of_owned hn (hone.1 hrun)
    refine ⟨⟨_, rfl, henter⟩, ?_⟩
    rw [move_start, henter]
    rfl
  · intro hrun id clear hn
    obtain ⟨r, hr⟩ := reset_of_owned clear hn (hone.1 hrun)
    refine ⟨⟨r, hr⟩, ?_⟩
    unfold move
    simp only [hr]
  · intro hrun t run outer pending c next hw hc hn
    exact step_of_contends hw hc hn (hone.1 hrun)

/-- After every history of requests, runs, steps and cancellations each session has the one run that it says it has,
and nobody else gets at it. -/
theorem after_exclusive (registry : Registry) (settings : Settings) (client : Option Client) (host : Host)
    (ms : List Move) (hcalm : ∀ m ∈ ms, m.IsCalm) (n : Nat) :
    Exclusive ((new registry settings client host).after ms) ((new registry settings client host).chronicle ms) n := by
  have h₀ := new_consistent registry settings client host
  have h := after_consistent h₀ hcalm
  have hruns := (chronicle_path h₀ hcalm n).runs_eq
  rw [h₀.runs_eq, h.runs_eq, new_loops] at hruns
  exact exclusive_of_consistent h hruns

/-- While the step waits at its gate after a stop, its run still has the session. -/
theorem held_exclusive :
    (∀ m ∈ (.start Held.order :: Held.moves (.stop "s")).take 4, m.IsCalm) ∧
      loops (Held.bench.after ((.start Held.order :: Held.moves (.stop "s")).take 4)).allStacks 0 = 1 ∧
      Exclusive (Held.bench.after ((.start Held.order :: Held.moves (.stop "s")).take 4))
        (Held.bench.chronicle ((.start Held.order :: Held.moves (.stop "s")).take 4)) 0 := by
  have hcalm : ∀ m ∈ (.start Held.order :: Held.moves (.stop "s")).take 4, m.IsCalm :=
    fun m hm => Held.isCalm (.stop "s") m (List.mem_of_mem_take hm)
  exact ⟨hcalm, by decide +kernel, after_exclusive _ _ _ _ _ hcalm 0⟩

end Workbench

end Playbook
