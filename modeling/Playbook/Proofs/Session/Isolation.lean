import Playbook.Proofs.Session.Announcement
import Playbook.Proofs.Session.Identity
import Playbook.Proofs.Session.Mirror
import Playbook.Proofs.Session.Registry
import Playbook.Proofs.Session.Stacks
/-!
# Sessions do not interfere

A run of one session is followed while others run, fail and are stopped, closed or reset around it. Nothing that they do
reaches its session or its task, so it stands at every moment where it stands when all moves of the others are left out
of the history. Runs keep to their own sessions here: they give no commands. The followed run does not look at the host,
for the others may change that.
-/

namespace Playbook

/-! ### Runs that keep to their session -/

section Confined

variable {r : Registry} {works : Work Product → Prop} {es : List Happening} {f f' : Frame} {p p' : Point}

theorem Point.Confined.goesOn (h : p.Confined works) (hpoint : p.GoesOn p') : p'.Confined works := by
  cases hpoint with
  | stays => exact h
  | works hpending hwork => exact h.2 _
  | passes => exact h
  | learns | awaits | returns => exact absurd h id

theorem Frame.IsConfined.advances (h : f.IsConfined r works) (hadvances : f.Advances r es f') :
    f'.IsConfined r works := by
  cases hadvances with
  | records => exact ⟨h.playbook, trivial⟩
  | @begins run block hblock hdirective =>
      exact ⟨h.playbook, h.playbook block (List.mem_of_getElem? hblock) hdirective⟩
  | succeeds => exact ⟨h.playbook, trivial⟩
  | inStep hpoint => exact ⟨h.playbook, h.point.goesOn hpoint⟩

end Confined

/-! ### Moves of others -/

/-- The move does not ask for the session of the id or for the task, and what it starts gives no commands. -/
def HostMove.KeepsOff (r : Registry) (id : String) (t : Nat) : HostMove → Prop
  | .move (.turn _) | .move .rouse | .move (.release _) => True
  | .move (.request c) => c.session ≠ id
  | .move (.start o) | .apart o .. => o.id ≠ id ∧ r.Confines (fun _ => True) (Document.parse o.text).blocks
  | .move (.openSession id') | .move (.parse id' _) => id' ≠ id
  | .move (.cancel u) => u ≠ t

/-- The task takes a turn, or a gate is opened, for whoever waits there. -/
def HostMove.isOwn (t : Nat) : HostMove → Bool
  | .move (.turn u) => u == t
  | .move (.release _) => true
  | .move _ | .apart .. => false

/-- The id stands for the same session, and that is as it was. -/
structure Sessions.Keeps (s : Sessions) (id : String) (n : Nat) (s' : Sessions) : Prop where
  number : s'.number? id = some n
  session : s'.get n = s.get n

theorem Sessions.Keeps.trans {s s' s'' : Sessions} {id : String} {n : Nat} (h : s.Keeps id n s')
    (h' : s'.Keeps id n s'') : s.Keeps id n s'' := ⟨h'.number, h'.session.trans h.session⟩

theorem Sessions.keeps_update {s : Sessions} {id : String} {n k : Nat} (hn : s.number? id = some n) (hk : k ≠ n)
    (f : Session → Session) : s.Keeps id n (s.update k f) := ⟨hn, get_update_other s f (Ne.symm hk)⟩

namespace Workbench

variable {w w' v : Workbench} {d : HostMove} {id : String} {t u n k : Nat}

/-! ### A run among others -/

/-- Task `t` has the session of the id to itself, and no run gives commands. -/
structure Secluded (w : Workbench) (id : String) (t n : Nat) : Prop where
  tenured : Tenured w.sessions w.allStacks
  filed : w.sessions.IsFiled
  number : w.sessions.number? id = some n
  started : t < w.tasks.length
  confined : ∀ u, ∀ f ∈ w.stack u, f.IsConfined w.registry fun _ => True
  apart : ∀ u, u ≠ t → ∀ f ∈ w.stack u, f.run.session ≠ n

section Sessions

variable {id' : String}

theorem Secluded.refl (h : Secluded w id t n) : w.sessions.Keeps id n w.sessions := ⟨h.number, rfl⟩

/-- Another id stands for another session. -/
theorem Secluded.ne_of_number (h : Secluded w id t n) (hid : id' ≠ id) (hk : w.sessions.number? id' = some k) :
    k ≠ n := by
  rintro rfl
  exact hid ((h.filed.named id' k hk).symm.trans (h.filed.named id k h.number))

theorem Secluded.opened (h : Secluded w id t n) (hid : id' ≠ id) (hopen : Opened w id' w' k) :
    k ≠ n ∧ w.sessions.Keeps id n w'.sessions := by
  cases hopen with
  | found hk hw =>
      rw [hw]
      exact ⟨h.ne_of_number hid hk, h.refl⟩
  | made s hk hs hw hlast =>
      have hn := Nat.ne_of_lt (h.tenured.ids.lt_of_number? h.number)
      rw [hw, hlast]
      refine ⟨hn.symm, ?_, ?_⟩
      · rw [Sessions.number?_add, h.number]
        rfl
      · rw [Sessions.get_add, if_neg hn]

theorem Secluded.carried (h : Secluded w id t n) {c : Command} {es : List Happening} (hid : c.session ≠ id)
    (hc : Carried w c w' es) : w.sessions.Keeps id n w'.sessions := by
  cases hc with
  | pause hk | resume hk | stop hk =>
      rw [sessions_moved]
      exact Sessions.keeps_update h.number (h.ne_of_number hid hk) _
  | reset hk hm hsessions hstacks =>
      rw [hsessions]
      exact Sessions.keeps_update h.number (h.ne_of_number hid hk) _
  | @close id' k w' hk hsessions hstacks =>
      change id' ≠ id at hid
      have hnumber : (w.sessions.remove id').number? id = some n := by
        rw [Sessions.number?_remove, if_neg (Ne.symm hid), h.number]
      rw [hsessions]
      exact ⟨hnumber, Sessions.get_update_other _ _ (Ne.symm (h.ne_of_number hid hk))⟩
  | closeUnknown | phase => exact h.refl

theorem Secluded.entered (h : Secluded w id t n) {o : Order} {result : Except Failure Run} (hid : o.id ≠ id)
    (he : Entered w o w' result) : w.sessions.Keeps id n w'.sessions := by
  cases he with
  | unopened | busy => exact h.refl
  | turnedDown hopen hfree hsessions hstacks =>
      obtain ⟨hk, hkeeps⟩ := h.opened hid hopen
      rw [hsessions]
      exact hkeeps.trans (Sessions.keeps_update hkeeps.number hk _)
  | started hopen hexecutable hfree hidle hsessions hstacks hregistry =>
      obtain ⟨hk, hkeeps⟩ := h.opened hid hopen
      rw [hsessions]
      exact hkeeps.trans (Sessions.keeps_update hkeeps.number hk _)

/-- A step that gives no command changes the session of its run at most. -/
theorem Turn.update {es : List Happening} (hturn : Turn w u w' es)
    (hconfined : ∀ f ∈ w.stack u, f.IsConfined w.registry fun _ => True) :
    w'.sessions = w.sessions ∨ ∃ f ∈ w.stack u, ∃ g, w'.sessions = w.sessions.update f.run.session g := by
  have hone : ∀ {run : Run} {point : Point} {outer : List Frame} {g : Session → Session},
      w.task u = .ready (⟨run, point⟩ :: outer) → w'.sessions = w.sessions.update run.session g →
      w'.sessions = w.sessions ∨ ∃ f ∈ w.stack u, ∃ g, w'.sessions = w.sessions.update f.run.session g := by
    intro run point outer g hw hsessions
    refine .inr ⟨⟨run, point⟩, ?_, g, hsessions⟩
    rw [stack_of_ready hw]
    exact List.mem_cons_self
  have hnone : ∀ {run : Run} {outer : List Frame} {pending : List Message} {c : Command}
      {next : Except Failure Answer → Activity (List Message)},
      w.task u = .ready (⟨run, .working pending (.command c next)⟩ :: outer) → False := by
    intro run outer pending c next hw
    rw [stack_of_ready hw] at hconfined
    exact (hconfined _ List.mem_cons_self).point
  cases hturn with
  | rests hsessions hstacks => exact .inl hsessions
  | stops hw hphase h => exact hone hw h.sessions
  | completes hw hend hactive h => exact hone hw h.sessions
  | records hw hblock hplain hrunning h => exact hone hw h.sessions
  | begins hw hblock hdirective hrunning h => exact hone hw h.sessions
  | succeeds hw hblock h => exact hone hw h.sessions
  | fails hw hblock h => exact hone hw h.sessions
  | works hw hwork h hhost =>
      have hsessions := h.sessions
      exact hone hw hsessions
  | waits hw h => exact hone hw h.sessions
  | enters hw hentered hsessions hstacks => exact (hnone hw).elim
  | turnedAway hw hentered hsessions hstacks => exact (hnone hw).elim
  | commands hw hcarried hsessions hstacks => exact (hnone hw).elim
  | refused hw h => exact (hnone hw).elim

/-- What others do leaves the session alone. -/
theorem Secluded.keeps (h : Secluded w id t n) (hd : HostMove.KeepsOff w.registry id t d)
    (hother : HostMove.isOwn t d = false) : w.sessions.Keeps id n (w.serve d).sessions := by
  have hserved := h.tenured.served d
  generalize (w.serve d).sessions = s at hserved ⊢
  cases hserved with
  | stays => exact h.refl
  | @turns u w' es hturn =>
      have hu : u ≠ t := by simpa [HostMove.isOwn] using hother
      rcases hturn.update (h.confined u) with hsessions | ⟨f, hf, g, hsessions⟩
      · rw [hsessions]
        exact h.refl
      · rw [hsessions]
        exact Sessions.keeps_update h.number (h.apart u hu f hf) g
  | requests hcarried => exact h.carried hd hcarried
  | starts hentered => exact h.entered hd.1 hentered
  | opens hopened => exact (h.opened hd hopened).2
  | parses hopened =>
      obtain ⟨hk, hkeeps⟩ := h.opened hd hopened
      exact hkeeps.trans (Sessions.keeps_update hkeeps.number hk _)
  | opensApart hopened => exact (h.opened hd.1 hopened).2
  | startsApart hopened hfree =>
      obtain ⟨hk, hkeeps⟩ := h.opened hd.1 hopened
      exact hkeeps.trans (Sessions.keeps_update hkeeps.number hk _)
  | @cancels u =>
      exact h.tenured.cancelled u h.refl fun s f hf m hkeeps _ _ =>
        hkeeps.trans (Sessions.keeps_update hkeeps.number (h.apart u hd f hf) _)

/-- The id stands for the session for as long as nobody asks for it. -/
theorem Secluded.number_serve (h : Secluded w id t n) (hd : HostMove.KeepsOff w.registry id t d) :
    (w.serve d).sessions.number? id = some n := by
  cases hown : HostMove.isOwn t d with
  | false => exact (h.keeps hd hown).number
  | true =>
      rcases d with m | _
      · cases m with
        | turn u =>
            change (w.step u).sessions.number? id = some n
            rcases (h.tenured.turn u).update (h.confined u) with hsessions | ⟨f, hf, g, hsessions⟩
            · rw [hsessions]
              exact h.number
            · rw [hsessions]
              exact h.number
        | release gate => exact h.number
        | rouse | request | start | openSession | parse | cancel => cases hown
      · cases hown

end Sessions

/-! ### Every move -/

theorem HostMove.KeepsOff.order {r : Registry} {o : Order} (hd : HostMove.KeepsOff r id t d)
    (ho : HostMove.order? d = some o) :
    o.id ≠ id ∧ r.Confines (fun _ => True) (Document.parse o.text).blocks := by
  cases d with
  | apart o' root blocksOnly rests =>
      cases ho
      exact hd
  | move m =>
      cases m with
      | start o' =>
          cases ho
          exact hd
      | turn | rouse | request | openSession | parse | release | cancel => cases ho

theorem Secluded.stacks (h : Secluded w id t n) (hd : HostMove.KeepsOff w.registry id t d) (u : Nat) :
    ∀ f ∈ (w.serve d).stack u, (f.IsConfined w.registry fun _ => True) ∧ (u ≠ t → f.run.session ≠ n) := by
  obtain ⟨k, hrestacked, hothers⟩ := serve_concerns h.tenured d
  have hbefore : ∀ f ∈ w.stack u, (f.IsConfined w.registry fun _ => True) ∧ (u ≠ t → f.run.session ≠ n) :=
    fun f hf => ⟨h.confined u f hf, fun hu => h.apart u hu f hf⟩
  by_cases hu : u = k
  · subst hu
    refine hrestacked.forall ?_ ?_ ?_ hbefore
    · intro o run ho hnew hopened
      obtain ⟨hid, hconfines⟩ := HostMove.KeepsOff.order hd ho
      obtain ⟨w₀, hopened⟩ := hopened
      exact ⟨⟨hnew.blocks ▸ hconfines, trivial⟩, fun _ => (h.opened hid hopened).1⟩
    · rintro run pending name text next inner ⟨hcommands, -⟩ -
      exact False.elim hcommands.point
    · rintro es f f' ⟨hconfined, hapart⟩ hadvances
      exact ⟨hconfined.advances hadvances, fun hu => hadvances.session.symm ▸ hapart hu⟩
  · rw [hothers u hu]
    exact hbefore

theorem Secluded.serve (h : Secluded w id t n) (hd : HostMove.KeepsOff w.registry id t d) :
    Secluded (w.serve d) id t n where
  tenured := h.tenured.pass (serve_handsOver h.tenured d)
  filed := serve_filed h.tenured h.filed d
  number := h.number_serve hd
  started := Nat.lt_of_lt_of_le h.started (serve_keeps w d).2.2
  confined u f hf := (registry_serve w d).symm ▸ (h.stacks hd u f hf).1
  apart u hu f hf := (h.stacks hd u f hf).2 hu

/-- What others do leaves the task alone, unless it is paused. -/
theorem Secluded.task_serve (h : Secluded w id t n) (hd : HostMove.KeepsOff w.registry id t d)
    (hother : HostMove.isOwn t d = false) (hpaused : ∀ k frames, w.task t ≠ .paused k frames) :
    (w.serve d).task t = w.task t := by
  have hgate : ∀ gate, d ≠ .move (.release gate) := by
    rintro gate rfl
    cases hother
  have hmover : HostMove.mover? d ≠ some t := by
    intro hmover
    cases d with
    | apart => cases hmover
    | move m =>
        cases m with
        | turn u =>
            cases hmover
            simp [HostMove.isOwn] at hother
        | cancel u =>
            cases hmover
            exact hd rfl
        | rouse | request | start | openSession | parse | release => cases hmover
  obtain ⟨k, hk, -⟩ := announces_serve (w := w) d hgate
  have hspared := hk.others t h.started hmover
  generalize (w.serve d).task t = s' at hspared ⊢
  generalize hs : w.task t = s at hspared ⊢
  cases hspared with
  | same => rfl
  | woken => exact absurd hs (hpaused _ _)

/-! ### Histories without the others -/

theorem Mirrors.task_ne_paused {hosted : Bool} {m : Nat} (h : Mirrors hosted w t n v u m) (k : Nat)
    (frames : List Frame) : w.task t ≠ .paused k frames := by
  intro hpaused
  cases h with
  | ended h hw hv => cases hw.symm.trans hpaused
  | @going run point gate? h hrunning hrun hconfined hplaced hw hv =>
      cases gate? with
      | none => cases hw.symm.trans hpaused
      | some gate => cases hw.symm.trans hpaused

/-- The run does the same if all that others do is left out. -/
theorem Secluded.mirrors {ds : List HostMove} (h : Secluded w id t n) (hm : Mirrors false w t n v t n)
    (hds : ∀ d ∈ ds, HostMove.KeepsOff w.registry id t d) :
    Mirrors false (w.following ds) t n (v.following (ds.filter (HostMove.isOwn t))) t n := by
  induction ds generalizing w v with
  | nil => exact hm
  | cons d ds ih =>
      obtain ⟨hd, hds⟩ := List.forall_mem_cons.1 hds
      rw [← registry_serve w d] at hds
      cases hown : HostMove.isOwn t d with
      | false =>
          rw [List.filter_cons_of_neg (by simp [hown])]
          have hkeeps := h.keeps hd hown
          have hserve := h.serve hd
          exact ih hserve (hm.elsewhere hkeeps.session (hserve.tenured.ids.lt_of_number? hserve.number) nofun
            (registry_serve w d) (h.task_serve hd hown hm.task_ne_paused)) hds
      | true =>
          rw [List.filter_cons_of_pos hown]
          refine ih (h.serve hd) ?_ hds
          rcases d with m | _
          · cases m with
            | turn u =>
                obtain rfl : u = t := beq_iff_eq.1 hown
                exact hm.turn
            | release gate => exact hm.release gate
            | rouse | request | start | openSession | parse | cancel => cases hown
          · cases hown

/-- A run that has just started has its session to itself. -/
theorem secluded_start {o : Order} {run : Run} (h : Tenured w.sessions w.allStacks) (hfiled : w.sessions.IsFiled)
    (hrun : (w.enter o).2 = .ok run) (hown : w.registry.Confines (fun _ => True) (Document.parse o.text).blocks)
    (hothers : ∀ u, ∀ f ∈ w.stack u, f.IsConfined w.registry fun _ => True) :
    Secluded (w.move (.start o)) o.id w.tasks.length run.session := by
  have h' := h.pass (serve_handsOver h (.move (.start o)))
  obtain ⟨htask, -, -, hregistry, k, hordered⟩ := start_ready h.ids hrun
  have hstack := stack_of_ready htask
  have hblocks : run.blocks = (Document.parse o.text).blocks := by
    rw [hordered]
    rfl
  refine ⟨h', serve_filed h hfiled (.move (.start o)), ?_, lt_length_of_ready _ htask, ?_, ?_⟩
  · rcases start_cases w o with ⟨f, w₁, hentered, hnone, -, -⟩ | ⟨run', w₁, hentered, hone, hsessions, -⟩
    · rw [admitted, hrun] at hnone
      cases hnone
    · rw [admitted, hrun] at hone
      cases hentered with
      | started hopen hexecutable hfree hidle hs hstacks hregistry =>
          rw [hsessions, hs]
          cases hone
          exact hopen.number?
  · intro u f hf
    rw [hregistry]
    by_cases hu : u = w.tasks.length
    · rw [hu, hstack] at hf
      cases List.mem_singleton.1 hf
      exact ⟨hblocks ▸ hown, trivial⟩
    · rw [(start_concerns w o).2 u (by rwa [length_stacks])] at hf
      exact hothers u f hf
  · intro u hu f hf
    exact h'.session_ne hu (hstack ▸ List.mem_cons_self) hf

/-- In `w` and `v` the run of task `t` on session `n` stands at the same point with the same steps behind it, or has
come to the same end, and its session looks the same. -/
structure SameView (w v : Workbench) (t n : Nat) : Prop where
  session : (w.session n).Like (v.session n)
  task : w.task t = v.task t

theorem Mirrors.sameView {hosted : Bool} (h : Mirrors hosted w t n v t n) : SameView w v t n := by
  cases h with
  | ended h hw hv => exact ⟨h.session, hw.trans hv.symm⟩
  | going gate? h hrunning hrun hconfined hplaced hw hv =>
      subst hrun
      exact ⟨h.session, hw.trans hv.symm⟩

/-- Whatever others do meanwhile in other sessions, a run does what it does when nobody else moves. -/
theorem following_isolated (registry : Registry) (settings : Settings) (client : Option Client) (host : Host)
    (ds ds' : List HostMove) (o : Order) (run : Run)
    (hrun : (((new registry settings client host).following ds).enter o).2 = .ok run)
    (hown : registry.Confines (Work.Respects false) (Document.parse o.text).blocks)
    (hothers : ∀ u, ∀ f ∈ ((new registry settings client host).following ds).stack u,
      f.IsConfined registry fun _ => True)
    (hds : ∀ d ∈ ds',
      HostMove.KeepsOff registry o.id ((new registry settings client host).following ds).tasks.length d) :
    let w := ((new registry settings client host).following ds).move (.start o)
    let t := ((new registry settings client host).following ds).tasks.length
    SameView (w.following ds') (w.following (ds'.filter (HostMove.isOwn t))) t run.session := by
  have h := following_tenured (new_tenured registry settings client host) ds
  have hfiled := following_filed (new_tenured registry settings client host)
    (new_filed registry settings client host) ds
  have hregistry : ((new registry settings client host).following ds).registry = registry := registry_following ..
  generalize (new registry settings client host).following ds = w at hrun hothers hds h hfiled hregistry ⊢
  subst hregistry
  obtain ⟨htask, hmade, hrunning, hregistry, k, hordered⟩ := start_ready h.ids hrun
  have hblocks : run.blocks = (Document.parse o.text).blocks := by
    rw [hordered]
    rfl
  have hsecluded := secluded_start h hfiled hrun (fun b hb hdirective => (hown b hb hdirective).mono fun _ _ => trivial)
    hothers
  have hself : Mirrors false (w.move (.start o)) w.tasks.length run.session (w.move (.start o)) w.tasks.length
      run.session :=
    .going none ⟨⟨rfl, rfl, rfl, rfl, rfl⟩, fun _ => rfl, rfl, hmade, hmade⟩ hrunning rfl
      (hregistry.symm ▸ ⟨hblocks ▸ hown, trivial⟩) (.inl rfl) htask htask
  exact (hsecluded.mirrors hself (hregistry.symm ▸ hds)).sameView

/-- One playbook selects a conversation and talks to the model; meanwhile another one fails, and its session is reset
and closed. -/
theorem talk_isolated :
    let w := new (Builtin.registry none) .standard (some (.new (some "m") (.echo none))) Held.host
    let o : Order := ⟨"talk", "@context --name \"notes\"\nHi\n@task --prompt \"hello\"", .nobody⟩
    let ds : List HostMove := [.move (.start ⟨"gone", "@gone", .nobody⟩), .move (.turn 0), .move (.turn 1),
      .move (.turn 0), .move (.turn 1), .move (.turn 0), .move (.request (.reset "gone" true)), .move (.turn 0),
      .move (.request (.close "gone")), .move (.turn 0), .move (.turn 0), .move (.turn 0), .move (.turn 0)]
    ∃ run, (w.enter o).2 = .ok run ∧ (((w.move (.start o)).following ds).task 0).isOver = true ∧
      SameView ((w.move (.start o)).following ds) ((w.move (.start o)).following (ds.filter (HostMove.isOwn 0))) 0
        run.session := by
  intro w o ds
  have hentered : (w.enter o).2.toBool = true := by decide +kernel
  have hover : (((w.move (.start o)).following ds).task 0).isOver = true := by decide +kernel
  have hnames : ∀ b ∈ (Document.parse o.text).blocks, b.isDirective = true →
      b.name ∈ [Builtin.context.name, Builtin.model.name, Task.skill.name] := by decide +kernel
  have hquiet : ∀ blocks, (Builtin.registry none).Confines (fun _ => True) blocks := fun blocks b hb hdirective =>
    (Builtin.registry_confines none blocks b hb hdirective).mono fun _ _ => trivial
  have hothers : ∀ u, ∀ f ∈ w.stack u, f.IsConfined (Builtin.registry none) fun _ => True := by
    intro u f hf
    have hnone : w.stack u = [] := by simp [stack_eq, allStacks, w, new]
    rw [hnone] at hf
    cases hf
  have hds : ∀ d ∈ ds, HostMove.KeepsOff (Builtin.registry none) "talk" 0 d := by
    intro d hd
    simp only [ds, List.mem_cons, List.not_mem_nil, or_false] at hd
    rcases hd with rfl | rfl | rfl | rfl | rfl | rfl | rfl | rfl | rfl | rfl | rfl | rfl | rfl
    · exact ⟨by decide, hquiet _⟩
    all_goals first
      | exact True.intro
      | exact show "gone" ≠ "talk" by decide
  obtain ⟨run, hrun⟩ := exists_of_toBool hentered
  exact ⟨run, hrun, hover,
    following_isolated _ _ _ _ [] ds o run hrun (Builtin.confines_of_names hnames) hothers hds⟩

end Workbench

end Playbook
