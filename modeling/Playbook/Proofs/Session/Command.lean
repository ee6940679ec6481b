import Playbook.Proofs.Execution.Machine
import Playbook.Proofs.Session.History
/-!
# What the manager does to sessions

Opening, commanding and starting, each by the sessions that it leaves behind. None of them touches a stack: a
request is noted in the machine of its session, and the run on the stack learns of it at its next boundary.
-/

namespace Playbook.Workbench

variable {w w' : Workbench}

/-! ### Opening -/

/-- The session of the id was there, or is a new last one that nobody has. -/
inductive Opened (w : Workbench) (id : String) (w' : Workbench) (n : Nat) : Prop
  | found (hn : w.sessions.number? id = some n) (hw : w' = w)
  | made (s : Session) (hn : w.sessions.number? id = none) (hs : Session.new w.settings w.client id = .ok s)
      (hw : w' = { w with sessions := (w.sessions.add s).1 }) (hlast : n = w.sessions.made.length)

theorem opened_of_ok {id : String} {n : Nat} (h : w.openSession id = .ok (w', n)) : Opened w id w' n := by
  unfold openSession at h
  split at h
  · rename_i m hm
    cases h
    exact .found hm rfl
  · rename_i hnone
    cases hs : Session.new w.settings w.client id with
    | error f =>
        rw [hs] at h
        cases h
    | ok s =>
        rw [hs] at h
        cases h
        exact .made s hnone hs rfl rfl

/-- A new session is idle, and nobody has it. -/
theorem machine_new {settings : Settings} {client : Option Client} {id : String} {s : Session}
    (h : Session.new settings client id = .ok s) : s.id = id ∧ s.machine = .new id := by
  unfold Session.new at h
  cases hc : Contexts.new settings.defaultContext with
  | error f =>
      rw [hc] at h
      cases h
  | ok contexts =>
      rw [hc] at h
      cases h
      exact ⟨rfl, rfl⟩

/-! ### Commands -/

/-- A command that was carried out, by the machine it found, the sessions it left and what happened. -/
inductive Carried (w : Workbench) : Command → Workbench → List Happening → Prop
  | pause {id : String} {n : Nat} {m : Machine} (hn : w.sessions.number? id = some n)
      (hm : (w.session n).machine.pause = .ok m) : Carried w (.pause id) (w.moved n m) [.paused n]
  | resume {id : String} {n : Nat} {m : Machine} (hn : w.sessions.number? id = some n)
      (hm : (w.session n).machine.resume = .ok m) : Carried w (.resume id) (w.moved n m) [.resumed n]
  | stop {id : String} {n : Nat} (hn : w.sessions.number? id = some n) :
      Carried w (.stop id) (w.moved n (w.session n).machine.stop.1)
        (if (w.session n).machine.isActive then [.stopped n] else [])
  | reset {id : String} {clear : Bool} {n : Nat} {m : Machine} {w' : Workbench} (hn : w.sessions.number? id = some n)
      (hm : (w.session n).machine.reset = .ok m)
      (hsessions : w'.sessions = w.sessions.update n fun s =>
        let s := { s with machine := m, highlights := .none }
        if clear then s.clear else s)
      (hstacks : w'.allStacks = w.allStacks) : Carried w (.reset id clear) w' []
  | close {id : String} {n : Nat} {w' : Workbench} (hn : w.sessions.number? id = some n)
      (hsessions : w'.sessions = (w.sessions.remove id).update n fun s =>
        { s with machine := s.machine.stop.1, highlights := .none })
      (hstacks : w'.allStacks = w.allStacks) :
      Carried w (.close id) w' (if (w.session n).machine.isActive then [.stopped n] else [])
  | closeUnknown {id : String} (hn : w.sessions.number? id = none) : Carried w (.close id) w []
  | phase {id : String} {n : Nat} (hn : w.sessions.number? id = some n) : Carried w (.phase id) w []

theorem require_eq_ok {id : String} {n : Nat} : w.sessions.require id = .ok n ↔ w.sessions.number? id = some n := by
  unfold Sessions.require
  cases w.sessions.number? id <;> simp

theorem bind_eq_ok {ε α β : Type} {x : Except ε α} {f : α → Except ε β} {b : β} (h : x >>= f = .ok b) :
    ∃ a, x = .ok a ∧ f a = .ok b := by
  cases x with
  | error e => cases h
  | ok a => exact ⟨a, rfl, h⟩

theorem act_eq_ok {n : Nat} {a : Action} {reply : Option Bool} (h : w.act n a = .ok (w', reply)) :
    ∃ m, (w.session n).machine.act a = .ok (m, reply) ∧ w' = w.moved n m := by
  cases hm : (w.session n).machine.act a with
  | error r =>
      rw [act_of_error hm] at h
      cases h
  | ok result =>
      rw [act_of_ok hm] at h
      cases h
      exact ⟨_, rfl, rfl⟩

theorem map_eq_ok {m : Machine} {x : Except Refusal Machine} {reply : Option Bool}
    (h : x.map (·, (none : Option Bool)) = .ok (m, reply)) : x = .ok m := by
  cases x with
  | error r => cases h
  | ok m' =>
      cases h
      rfl

theorem control_eq_ok {id : String} {a : Action} {reply : Option Bool} (h : w.control id a = .ok (w', reply)) :
    ∃ n m, w.sessions.number? id = some n ∧ (w.session n).machine.act a = .ok (m, reply) ∧ w' = w.moved n m := by
  obtain ⟨n, hn, hact⟩ := bind_eq_ok h
  obtain ⟨m, hm, hw⟩ := act_eq_ok hact
  exact ⟨n, m, require_eq_ok.1 hn, hm, hw⟩

theorem reset_carried {id : String} {clear : Bool} (h : w.reset id clear = .ok w') :
    Carried w (.reset id clear) w' [] := by
  obtain ⟨n, hn, h⟩ := bind_eq_ok h
  obtain ⟨⟨v, reply⟩, hact, h⟩ := bind_eq_ok h
  obtain ⟨m, hm, rfl⟩ := act_eq_ok hact
  refine .reset (require_eq_ok.1 hn) (map_eq_ok hm) ?_ ?_
  · cases clear with
    | true =>
        cases h
        change ((w.moved n m).highlight n .clear).sessions.update n Session.clear = _
        rw [sessions_highlight, sessions_moved, Sessions.update_update, Sessions.update_update]
        rfl
    | false =>
        cases h
        change ((w.moved n m).highlight n .clear).sessions = _
        rw [sessions_highlight, sessions_moved, Sessions.update_update]
        rfl
  · cases clear with
    | true =>
        cases h
        exact stacks_moved w n m
    | false =>
        cases h
        exact stacks_moved w n m

theorem closeSession_carried {id : String} {n : Nat} (hn : w.sessions.number? id = some n) :
    Carried w (.close id) (w.closeSession id) (if (w.session n).machine.isActive then [.stopped n] else []) := by
  have hstop : (({ w with sessions := w.sessions.remove id } : Workbench).session n).machine.act .stop
      = .ok ((w.session n).machine.stop.1, some (w.session n).machine.stop.2) := rfl
  unfold closeSession tryAct
  simp only [hn, act_of_ok hstop]
  refine .close hn ?_ ?_
  · rw [sessions_highlight, sessions_moved, Sessions.update_update]
    exact Sessions.update_congr _ _ rfl
  · rw [stacks_highlight, stacks_moved]
    rfl

theorem granted_of_ok {c : Command} {answer : Answer} {n : Nat} (h : w.carryOut c = .ok (w', answer))
    (hn : w.sessions.number? c.session = some n) : w.granted c = c.brings n (w.session n).machine answer := by
  unfold granted
  rw [h, hn]

theorem granted_of_none {c : Command} (hn : w.sessions.number? c.session = none) : w.granted c = [] := by
  unfold granted
  rw [hn]
  cases w.carryOut c <;> rfl

theorem granted_of_error {c : Command} {f : Failure} (h : w.carryOut c = .error f) : w.granted c = [] := by
  unfold granted
  rw [h]

theorem carried_of_ok {c : Command} {answer : Answer} (h : w.carryOut c = .ok (w', answer)) :
    Carried w c w' (w.granted c) := by
  cases c with
  | pause id =>
      obtain ⟨⟨v, reply⟩, hc, hv⟩ := bind_eq_ok h
      obtain ⟨n, m, hn, hm, rfl⟩ := control_eq_ok hc
      cases hv
      rw [granted_of_ok h hn]
      exact .pause hn (map_eq_ok hm)
  | resume id =>
      obtain ⟨⟨v, reply⟩, hc, hv⟩ := bind_eq_ok h
      obtain ⟨n, m, hn, hm, rfl⟩ := control_eq_ok hc
      cases hv
      rw [granted_of_ok h hn]
      exact .resume hn (map_eq_ok hm)
  | stop id =>
      obtain ⟨⟨v, reply⟩, hc, hv⟩ := bind_eq_ok h
      obtain ⟨n, m, hn, hm, rfl⟩ := control_eq_ok hc
      cases hm
      cases hv
      rw [granted_of_ok h hn]
      simp only [Command.brings, Option.getD_some, Answer.flag.injEq, Machine.stop_snd]
      exact .stop hn
  | reset id clear =>
      obtain ⟨v, hc, hv⟩ := bind_eq_ok h
      obtain ⟨n, hn, -⟩ := bind_eq_ok hc
      cases hv
      rw [granted_of_ok h (require_eq_ok.1 hn)]
      exact reset_carried hc
  | close id =>
      cases h
      cases hn : w.sessions.number? id with
      | none =>
          rw [granted_of_none hn]
          simp only [closeSession, hn]
          exact .closeUnknown hn
      | some n =>
          rw [granted_of_ok rfl hn]
          exact closeSession_carried hn
  | phase id =>
      obtain ⟨p, hc, hv⟩ := bind_eq_ok h
      obtain ⟨n, hn, hp⟩ := bind_eq_ok hc
      cases hv
      rw [granted_of_ok h (require_eq_ok.1 hn)]
      exact .phase (require_eq_ok.1 hn)
  | run id text => cases h

theorem Carried.allStacks {c : Command} {es : List Happening} (h : Carried w c w' es) : w'.allStacks = w.allStacks := by
  cases h with
  | pause | resume | stop => exact stacks_moved ..
  | reset hn hm hsessions hstacks => exact hstacks
  | close hn hsessions hstacks => exact hstacks
  | closeUnknown | phase => rfl

/-! ### Starting -/

theorem Opened.allStacks {id : String} {n : Nat} (h : Opened w id w' n) : w'.allStacks = w.allStacks := by
  cases h with
  | found hn hw => rw [hw]
  | made s hn hs hw hlast => rw [hw]; rfl

theorem Opened.workspace {id : String} {n : Nat} (h : Opened w id w' n) : w'.workspace = w.workspace := by
  cases h with
  | found hn hw => rw [hw]
  | made s hn hs hw hlast => rw [hw]; rfl

theorem Opened.lt_length {id : String} {n : Nat} (h : Opened w id w' n) (hids : w.sessions.IsNumbered) :
    n < w'.sessions.made.length := by
  cases h with
  | found hn hw =>
      rw [hw]
      exact hids.lt_of_number? hn
  | made s hn hs hw hlast =>
      subst hw hlast
      change w.sessions.made.length < (w.sessions.add s).1.made.length
      rw [Sessions.length_made_add]
      exact Nat.lt_succ_self _

/-- The id stands for the session from then on. -/
theorem Opened.number? {id : String} {n : Nat} (h : Opened w id w' n) : w'.sessions.number? id = some n := by
  cases h with
  | found hn hw =>
      rw [hw]
      exact hn
  | made s hn hs hw hlast =>
      have hnone : w.sessions.ids.lookup id = none := hn
      rw [hw, hlast]
      change (w.sessions.ids ++ [(s.id, w.sessions.made.length)]).lookup id = _
      rw [List.lookup_append, hnone, (machine_new hs).1]
      simp

theorem Opened.registry {id : String} {n : Nat} (h : Opened w id w' n) : w'.registry = w.registry := by
  cases h with
  | found hn hw => rw [hw]
  | made s hn hs hw hlast => rw [hw]

/-- A session that somebody has was there before. -/
theorem Opened.found_of_owned {id : String} {n : Nat} (h : Opened w id w' n)
    (howned : (w'.session n).machine.isOwned = true) : w.sessions.number? id = some n ∧ w' = w := by
  cases h with
  | found hn hw => exact ⟨hn, hw⟩
  | made s hn hs hw hlast =>
      subst hw hlast
      rw [session_eq, Sessions.get_add, if_pos rfl, (machine_new hs).2] at howned
      cases howned

/-- A session that remembers the playbook and that a run took. -/
def begun (d : Document) (s : Session) : Session :=
  { s with
    lastParse := some d
    machine := { s.machine with phase := .running, isOwned := true, mayPass := true }
    client := s.client.map (·.reset) }

/-- The run of an order, before its first block. -/
def ordered (w : Workbench) (n : Nat) (o : Order) : Run :=
  ⟨n, (Document.parse o.text).blocks, 0, [], w.workspace, true, o.observer, true, false⟩

/-- How an order to run went. -/
inductive Entered (w : Workbench) (o : Order) : Workbench → Except Failure Run → Prop
  | unopened {f : Failure} (h : w.openSession o.id = .error f) : Entered w o w (.error f)
  | busy {n : Nat} (hn : w.sessions.number? o.id = some n) (howned : (w.session n).machine.isOwned = true) :
      Entered w o w (.error (.refused (.busy (w.session n).machine.phase o.id)))
  | turnedDown {w₀ w' : Workbench} {n : Nat} {f : Failure} (hopen : Opened w o.id w₀ n)
      (hfree : (w₀.session n).machine.isOwned = false)
      (hsessions : w'.sessions = w₀.sessions.update n fun s => { s with lastParse := some (Document.parse o.text) })
      (hstacks : w'.allStacks = w.allStacks) : Entered w o w' (.error f)
  | started {w₀ w' : Workbench} {n : Nat} (hopen : Opened w o.id w₀ n)
      (hexecutable : (Document.parse o.text).isExecutable = true)
      (hfree : (w₀.session n).machine.isOwned = false) (hidle : (w₀.session n).machine.phase = .idle)
      (hsessions : w'.sessions = w₀.sessions.update n (begun (Document.parse o.text)))
      (hstacks : w'.allStacks = w.allStacks) (hregistry : w'.registry = w.registry) :
      Entered w o w' (.ok (w.ordered n o))

theorem Entered.allStacks {o : Order} {result : Except Failure Run} (h : Entered w o w' result) :
    w'.allStacks = w.allStacks := by
  cases h with
  | unopened | busy => rfl
  | turnedDown hopen hfree hsessions hstacks => exact hstacks
  | started hopen hexecutable hfree hidle hsessions hstacks hregistry => exact hstacks

theorem start_eq_ok {n : Nat} {run started : Run} (h : w.start n run = .ok (w', started)) :
    started = run ∧ (w.session n).machine.isOwned = false ∧ (w.session n).machine.phase = .idle ∧
      w'.sessions = w.sessions.update n (fun s =>
        { s with
          machine := { s.machine with phase := .running, isOwned := true, mayPass := true }
          client := s.client.map (·.reset) }) ∧
      w'.allStacks = w.allStacks ∧ w'.registry = w.registry := by
  obtain ⟨⟨v, reply⟩, hact, h⟩ := bind_eq_ok h
  obtain ⟨m, hm, rfl⟩ := act_eq_ok hact
  obtain ⟨hfree, hidle, rfl⟩ := Machine.start_eq_ok.1 (map_eq_ok hm)
  cases h
  refine ⟨rfl, hfree, hidle, ?_, stacks_moved w n _, registry_moved w n _⟩
  change (w.moved n _).sessions.update n Session.resetModel = _
  rw [sessions_moved, Sessions.update_update]
  exact Sessions.update_congr _ _ rfl

theorem requireExecutable_eq_ok {d : Document} : requireExecutable d = .ok () ↔ d.isExecutable = true := by
  unfold requireExecutable
  cases d.isExecutable <;> simp

theorem enter_entered (w : Workbench) (o : Order) : Entered w o (w.enter o).1 (w.enter o).2 := by
  unfold enter
  cases hopen : w.openSession o.id with
  | error f => exact .unopened hopen
  | ok result =>
      obtain ⟨w₀, n⟩ := result
      have hopened := opened_of_ok hopen
      dsimp only
      split
      · rename_i howned
        obtain ⟨hn, rfl⟩ := hopened.found_of_owned howned
        exact .busy hn howned
      · rename_i howned
        have hfree : (w₀.session n).machine.isOwned = false := by simpa using howned
        split
        · rename_i v run hstart
          obtain ⟨u, hexecutable, hstart⟩ := bind_eq_ok hstart
          obtain ⟨rfl, -, hidle, hsessions, hstacks, hregistry⟩ := start_eq_ok hstart
          change v.sessions = (w₀.sessions.update n fun s =>
            { s with lastParse := some (Document.parse o.text) }).update n _ at hsessions
          rw [Sessions.update_update] at hsessions
          have hmachine := Sessions.apply_get_update w₀.sessions n n
            (fun s => { s with lastParse := some (Document.parse o.text) }) Session.machine fun _ => rfl
          have hstarted : Entered w o v (.ok (w.ordered n o)) :=
            .started hopened (requireExecutable_eq_ok.1 hexecutable) hfree (hmachine ▸ hidle) hsessions
              (hstacks.trans hopened.allStacks) (hregistry.trans hopened.registry)
          rw [ordered, ← hopened.workspace] at hstarted
          exact hstarted
        · exact .turnedDown hopened hfree rfl hopened.allStacks

/-! ### Moves from outside

Each is carried out, or turned down without a trace. -/

theorem move_request (w : Workbench) (c : Command) :
    Carried w c (w.move (.request c)) (w.granted c) ∨ w.move (.request c) = w ∧ w.granted c = [] := by
  unfold move
  dsimp only
  split
  · rename_i w' answer hcarry
    exact .inl (carried_of_ok hcarry)
  · rename_i f hcarry
    exact .inr ⟨rfl, granted_of_error hcarry⟩

theorem move_openSession (w : Workbench) (id : String) :
    (∃ n, Opened w id (w.move (.openSession id)) n) ∨ w.move (.openSession id) = w := by
  unfold move
  dsimp only
  split
  · rename_i w' n hopen
    exact .inl ⟨n, opened_of_ok hopen⟩
  · exact .inr rfl

theorem move_parse (w : Workbench) (id text : String) :
    (∃ w₀ n, Opened w id w₀ n ∧ (w.move (.parse id text)).allStacks = w.allStacks ∧
      (w.move (.parse id text)).sessions =
        w₀.sessions.update n fun s => { s with lastParse := some (Document.parse text) }) ∨
      w.move (.parse id text) = w := by
  unfold move
  dsimp only
  split
  · rename_i w' d hparse
    obtain ⟨⟨w₀, n⟩, hopen, hparse⟩ := bind_eq_ok hparse
    have hopened := opened_of_ok hopen
    cases hparse
    exact .inl ⟨w₀, n, hopened, hopened.allStacks, rfl⟩
  · exact .inr rfl

theorem move_rouse (w : Workbench) :
    (w.move .rouse).sessions = w.sessions ∧ (w.move .rouse).allStacks = w.allStacks := by
  unfold move
  dsimp only
  split
  · exact ⟨rfl, rfl⟩
  · exact ⟨rfl, rfl⟩

theorem move_release (w : Workbench) (gate : String) :
    (w.move (.release gate)).sessions = w.sessions ∧ (w.move (.release gate)).allStacks = w.allStacks :=
  ⟨rfl, stacks_wake w (isAtGate gate)⟩

end Playbook.Workbench
