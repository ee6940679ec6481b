import Playbook.Proofs.Session.Mirror
import Playbook.Proofs.Session.Origin
import Playbook.Proofs.Session.Release
/-!
# A session that is reset is as good as new

Once no run has a session a reset is granted, and if it drops the conversations, a run finds in the session what it
finds in a new one. What earlier runs said, set and selected, where they failed, and how they were paused and stopped
makes no difference. So whatever can be run does the same in both, turn by turn, and comes to the same end, provided
that there are the same files and the same answers to questions.
-/

namespace Playbook

/-- A run that starts in the session finds what it finds in a new one. -/
structure Session.IsFresh (settings : Settings) (client : Option Client) (s : Session) : Prop where
  contexts : Contexts.new settings.defaultContext = .ok s.contexts
  bindings : s.bindings = []
  highlights : s.highlights = .none
  client : s.client.map Client.origin = client.map Client.origin

section Fresh

variable {settings : Settings} {client : Option Client} {s s' : Session}

theorem Session.isFresh_new {id : String} (h : Session.new settings client id = .ok s) : s.IsFresh settings client := by
  have hcontexts := Workbench.contexts_new h
  have hclient := congrArg Prod.snd (Session.origin_new h)
  obtain ⟨contexts, -, hs⟩ := Workbench.bind_eq_ok h
  cases hs
  exact ⟨hcontexts, rfl, rfl, hclient⟩

/-- Runs that start in fresh sessions see the same. -/
theorem Session.IsFresh.begun (h : s.IsFresh settings client) (h' : s'.IsFresh settings client) (d : Document) :
    (Workbench.begun d s).Like (Workbench.begun d s') where
  contexts := Except.ok.inj (h.contexts.symm.trans h'.contexts)
  bindings := h.bindings.trans h'.bindings.symm
  highlights := h.highlights.trans h'.highlights.symm
  phase := rfl
  client := by
    have hclient := h.client.trans h'.client.symm
    change (s.client.map Client.reset).map Client.still = (s'.client.map Client.reset).map Client.still
    rw [Option.map_map, Option.map_map]
    exact hclient

end Fresh

namespace Workbench

variable {w v u : Workbench} {o : Order} {n : Nat} {run run' : Run}

/-! ### Hosts -/

theorem host_act {a : Action} {reply : Option Bool} (h : w.act n a = .ok (v, reply)) : v.host = w.host := by
  obtain ⟨m, -, rfl⟩ := act_eq_ok h
  exact host_moved w n m

theorem Opened.host {id : String} (h : Opened w id v n) : v.host = w.host := by
  cases h with
  | found hn hw => rw [hw]
  | made s hn hs hw hlast => rw [hw]

theorem host_enter (w : Workbench) (o : Order) : (w.enter o).1.host = w.host := by
  unfold enter
  cases hopen : w.openSession o.id with
  | error f => rfl
  | ok result =>
      obtain ⟨w₀, k⟩ := result
      have hopened := (opened_of_ok hopen).host
      dsimp only
      split
      · exact hopened
      · split
        · rename_i v run hstart
          obtain ⟨d, -, hstart⟩ := bind_eq_ok hstart
          obtain ⟨⟨v₀, reply⟩, hact, hstart⟩ := bind_eq_ok hstart
          have hhost := host_act hact
          cases hstart
          exact hhost.trans hopened
        · exact hopened

theorem host_start (w : Workbench) (o : Order) (hrun : (w.enter o).2 = .ok run) :
    (w.move (.start o)).host = w.host := by
  rw [move_start, hrun]
  exact host_enter w o

/-! ### Runs that start -/

/-- A run starts in the session that its order opens. -/
theorem start_begun (hids : w.sessions.IsNumbered) (hrun : (w.enter o).2 = .ok run) :
    ∃ w₀, Opened w o.id w₀ run.session ∧ run = w.ordered run.session o ∧
      (w.move (.start o)).session run.session = begun (Document.parse o.text) (w₀.session run.session) := by
  have hentered := enter_entered w o
  rw [move_start]
  cases henter : w.enter o with
  | mk w₁ result =>
      rw [henter] at hentered hrun
      subst hrun
      cases hentered with
      | @started w₀ _ k hopen hexecutable hfree hidle hsessions hstacks hregistry =>
          refine ⟨w₀, hopen, rfl, ?_⟩
          change w₁.sessions.get k = _
          rw [hsessions]
          exact Sessions.get_update_same _ _ (hopen.lt_length hids)

/-- In both workbenches new sessions are made of the same, the same skills are registered, and the host is the same. -/
structure Matches (w v : Workbench) : Prop where
  settings : v.settings = w.settings
  client : v.client = w.client
  registry : v.registry = w.registry
  host : v.host = w.host

theorem Matches.symm (h : Matches w v) : Matches v w :=
  ⟨h.settings.symm, h.client.symm, h.registry.symm, h.host.symm⟩

theorem Matches.trans (h : Matches w v) (h' : Matches v u) : Matches w u :=
  ⟨h'.settings.trans h.settings, h'.client.trans h.client, h'.registry.trans h.registry, h'.host.trans h.host⟩

/-- In two workbenches that match, an order is carried out in sessions that are fresh. -/
theorem mirrors_start {id' : String} (hmatches : Matches w v) (hw : w.sessions.IsNumbered) (hv : v.sessions.IsNumbered)
    (hrun : (w.enter o).2 = .ok run) (hrun' : (v.enter { o with id := id' }).2 = .ok run')
    (hfresh : ∀ w₀ n, Opened w o.id w₀ n → (w₀.session n).IsFresh w.settings w.client)
    (hfresh' : ∀ v₀ n, Opened v id' v₀ n → (v₀.session n).IsFresh v.settings v.client)
    (hconfined : w.registry.Confines (Work.Respects true) (Document.parse o.text).blocks) :
    Mirrors true (w.move (.start o)) w.tasks.length run.session (v.move (.start { o with id := id' })) v.tasks.length
      run'.session := by
  obtain ⟨htask, hmade, hrunning, hregistry, -⟩ := start_ready hw hrun
  obtain ⟨htask', hmade', hrunning', hregistry', -⟩ := start_ready hv hrun'
  obtain ⟨w₀, hopen, hordered, hbegun⟩ := start_begun hw hrun
  obtain ⟨v₀, hopen', hordered', hbegun'⟩ := start_begun hv hrun'
  have hlike : ((w.move (.start o)).session run.session).Like
      ((v.move (.start { o with id := id' })).session run'.session) := by
    have hfreshly := hfresh' v₀ _ hopen'
    rw [hmatches.settings, hmatches.client] at hfreshly
    rw [hbegun, hbegun']
    exact (hfresh w₀ _ hopen).begun hfreshly _
  have hsame : run' = run.inSession run'.session := by
    have hworkspace : v.workspace = w.workspace := by rw [workspace, hmatches.settings, hmatches.host, workspace]
    rw [hordered, hordered', ordered, ordered, hworkspace]
    rfl
  have hquiet : Frame.IsConfined (w.move (.start o)).registry (Work.Respects true) ⟨run, .boundary⟩ := by
    rw [hregistry]
    exact ⟨hordered ▸ hconfined, trivial⟩
  have hbeside : Beside true (w.move (.start o)) run.session (v.move (.start { o with id := id' })) run'.session := by
    refine ⟨hlike, fun _ => ?_, ?_, hmade, hmade'⟩
    · rw [host_start w o hrun, host_start v _ hrun', hmatches.host]
    · rw [hregistry, hregistry', hmatches.registry]
  refine .going none hbeside hrunning rfl hquiet (.inl rfl) htask ?_
  rw [htask', ← hsame]
  rfl

/-! ### The two sessions -/

/-- What a reset that drops the conversations leaves behind. -/
structure IsRenewed (w : Workbench) (id : String) (n : Nat) (v : Workbench) : Prop where
  rooted : IsRooted v
  alike : Matches w v
  number : v.sessions.number? id = some n
  unowned : (v.session n).machine.isOwned = false
  idle : (v.session n).machine.phase = .idle
  fresh : (v.session n).IsFresh v.settings v.client

/-- A session that is yet to be made runs whatever can be run. -/
theorem enter_new (hnone : w.sessions.number? o.id = none)
    (hhome : ∃ contexts, Contexts.new w.settings.defaultContext = .ok contexts)
    (hgood : (Document.parse o.text).isExecutable = true) : ∃ run, (w.enter o).2 = .ok run := by
  obtain ⟨contexts, hcontexts⟩ := hhome
  obtain ⟨s, hs⟩ : ∃ s, Session.new w.settings w.client o.id = .ok s := by
    simp only [Session.new, hcontexts, bind, Except.bind, pure, Except.pure, Except.ok.injEq, exists_eq']
  have hopen : w.openSession o.id = .ok ({ w with sessions := (w.sessions.add s).1 }, w.sessions.made.length) := by
    unfold openSession
    simp only [hnone, hs, bind, Except.bind]
    rfl
  have hsession : (w.sessions.add s).1.get w.sessions.made.length = s := by rw [Sessions.get_add, if_pos rfl]
  have hmachine := (machine_new hs).2
  have hfree : ((w.sessions.add s).1.get w.sessions.made.length).machine.isOwned = false := by
    rw [hsession, hmachine]
    rfl
  have hidle : ((w.sessions.add s).1.get w.sessions.made.length).machine.phase = .idle := by
    rw [hsession, hmachine]
    rfl
  obtain ⟨v, hv⟩ := enter_of_idle (opened_of_ok hopen).number? hfree hidle hgood
  rw [enter_of_opened hopen, hv]
  exact ⟨_, rfl⟩

theorem Opened.isFresh {id : String} (hnone : w.sessions.number? id = none) (h : Opened w id v n) :
    (v.session n).IsFresh w.settings w.client := by
  cases h with
  | found hn hw => cases hnone.symm.trans hn
  | made s hn hs hw hlast =>
      rw [hw, hlast, session_eq, Sessions.get_add, if_pos rfl]
      exact Session.isFresh_new hs

theorem Opened.eq_of_number? {id : String} {k : Nat} (hn : w.sessions.number? id = some n) (h : Opened w id v k) :
    v = w ∧ k = n := by
  cases h with
  | found hk hw => exact ⟨hw, Option.some.inj (hk.symm.trans hn)⟩
  | made s hnone hs hw hlast => cases hn.symm.trans hnone

theorem IsRenewed.isFresh {id : String} {v₀ : Workbench} {k : Nat} (h : IsRenewed w id n v)
    (hopened : Opened v id v₀ k) :
    (v₀.session k).IsFresh v.settings v.client := by
  obtain ⟨rfl, rfl⟩ := hopened.eq_of_number? h.number
  exact h.fresh

/-- The order is carried out in both sessions, and the runs mirror each other. -/
theorem IsRenewed.mirrors {id' : String} (h : IsRenewed w o.id n v) (hu : IsRooted u) (hmatches : Matches v u)
    (hhome : ∃ contexts, Contexts.new u.settings.defaultContext = .ok contexts)
    (hnone : u.sessions.number? id' = none) (hgood : (Document.parse o.text).isExecutable = true)
    (hconfined : v.registry.Confines (Work.Respects true) (Document.parse o.text).blocks) :
    ∃ run run', (v.enter o).2 = .ok run ∧ (u.enter { o with id := id' }).2 = .ok run' ∧
      Mirrors true (v.move (.start o)) v.tasks.length run.session (u.move (.start { o with id := id' })) u.tasks.length
        run'.session := by
  obtain ⟨v₁, hentered⟩ := enter_of_idle h.number h.unowned h.idle hgood
  have hrun : (v.enter o).2 = .ok (v.ordered n o) := by rw [hentered]
  obtain ⟨run', hrun'⟩ : ∃ run', (u.enter { o with id := id' }).2 = .ok run' := enter_new hnone hhome hgood
  exact ⟨_, run', hrun, hrun', mirrors_start hmatches h.rooted.tenured.ids hu.tenured.ids hrun hrun'
    (fun _ _ => h.isFresh) (fun _ _ => Opened.isFresh hnone) hconfined⟩

/-! ### Every history -/

end Workbench

end Playbook
