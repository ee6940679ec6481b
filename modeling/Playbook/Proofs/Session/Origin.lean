import Playbook.Proofs.Session.Announcement
import Playbook.Proofs.Session.Recording
import Playbook.Proofs.Session.Registry
import Playbook.Proofs.Session.Stacks
import Playbook.Proofs.Skill.Likeness
/-!
# What a session goes back to

Two things about a session outlast all that is done to it: the name of its home conversation, and its model client,
apart from the model that is selected and from the requests that were answered. It is these that a reset and the start
of a run go back to. Skills change neither, for all that the api lets them do to conversations and model is to select.
-/

namespace Playbook

/-- The client as a run finds it when it starts. -/
def Client.origin (c : Client) : Client := c.reset.still

/-- What a session goes back to. -/
def Session.origin (s : Session) : WideString × Option Client := (s.contexts.home, s.client.map Client.origin)

/-! ### Skills -/

theorem Contexts.home_select {c c' : Contexts} {name : WideString} (h : c.select name = .ok c') : c'.home = c.home := by
  rcases Contexts.select_eq_ok h with ⟨-, rfl⟩ | ⟨-, rfl⟩
  · rfl
  · rfl

theorem Contexts.home_new {home : WideString} {c : Contexts} (h : Contexts.new home = .ok c) : c.home = home :=
  Contexts.home_select h

theorem Contexts.Reselected.home {c c' : Contexts} (h : c.Reselected c') : c'.home = c.home := by
  induction h with
  | refl => rfl
  | select _ hselect ih => exact (Contexts.home_select hselect).trans ih

/-- Whoever selects a model leaves the default one alone. -/
theorem Client.origin_select {c c' : Client} {model : WideString} (h : c.select model = .ok c') :
    c'.origin = c.origin := by
  have hmap : ∀ {x : Except Failure ModelChoice}, x = .ok (c.choice.select model) ∨ (∃ e, x = .error e) →
      x.map (fun choice => { c with choice := choice }) = .ok c' → c'.origin = c.origin := by
    rintro _ (rfl | ⟨e, rfl⟩) hx
    · cases hx
      rfl
    · cases hx
  unfold Client.select at h
  split at h
  · rename_i known _
    cases haccept : Echo.accept known model with
    | error e =>
        rw [haccept] at h
        cases h
    | ok u =>
        rw [haccept] at h
        cases h
        rfl
  · refine hmap ?_ h
    unfold Service.select
    dsimp only
    split
    · exact .inl rfl
    all_goals exact .inr ⟨_, rfl⟩
  · refine hmap ?_ h
    unfold LocalServer.select
    dsimp only
    split
    · exact .inr ⟨_, rfl⟩
    · exact .inr ⟨_, rfl⟩
    · split
      · exact .inl rfl
      · exact .inr ⟨_, rfl⟩

theorem Client.origin_send (c : Client) (r : Request) : (c.send r).1.origin = c.origin := by
  unfold Client.send
  cases c.answer r with
  | ok reply => rfl
  | error e => rfl

namespace Work

theorem origin_selectModel (model : WideString) (api : Api) :
    ((selectModel model).run api).2.client.map Client.origin = api.client.map Client.origin := by
  rw [run_selectModel]
  cases hclient : api.client with
  | none =>
      dsimp only
      rw [hclient]
  | some c =>
      dsimp only
      cases hselect : c.select model with
      | error e =>
          dsimp only
          rw [hclient]
      | ok c' => exact congrArg some (Client.origin_select hselect)

theorem origin_send (role content : WideString) (model : Option WideString) (options : RequestOptions) (api : Api) :
    ((send role content model options).run api).2.client.map Client.origin = api.client.map Client.origin := by
  rw [run_send]
  cases hclient : api.client with
  | none =>
      dsimp only
      rw [hclient]
  | some c =>
      have horigin := c.origin_send (api.request role content model options)
      dsimp only
      cases hsend : c.send (api.request role content model options) with
      | mk c' answer =>
          rw [hsend] at horigin
          cases answer with
          | error e =>
              dsimp only
              rw [hclient]
          | ok reply => exact congrArg some horigin

/-- Work that keeps to the api leaves the client what it was, but for the selected model and the answered requests. -/
theorem Course.origin {α : Type} {x : Work α} {api : Api} {ds : List Deed} (h : Course x api ds) :
    (x.run api).2.client.map Client.origin = api.client.map Client.origin := by
  induction h with
  | pure | fail | look | queue => rfl
  | change hcontexts hclient hpending api => exact congrArg (Option.map Client.origin) (hclient api)
  | select name api =>
      rw [run_selectContext]
      cases api.contexts.select name with
      | ok contexts => rfl
      | error f => rfl
  | selectModel model api => exact origin_selectModel model api
  | send role content model options hclient => exact origin_send role content model options _
  | unsent role content model options hclient => exact origin_send role content model options _
  | bind hx hrun hf ihx ihf =>
      rw [hrun] at ihx
      rw [run_bind_of_ok hrun]
      exact ihf.trans ihx
  | stop hx hrun ihx =>
      rw [hrun] at ihx
      rw [run_bind_of_error hrun]
      exact ihx
  | rescue hx hrun hf ihx ihf =>
      rw [hrun] at ihx
      rw [run_tryCatch_of_error hrun]
      exact ihf.trans ihx
  | spare hx hrun ihx =>
      rw [hrun] at ihx
      rw [run_tryCatch_of_ok hrun]
      exact ihx

end Work

theorem Point.HasCourses.goesOn {p p' : Point} (h : p.HasCourses) (hpoint : p.GoesOn p') : p'.HasCourses := by
  cases hpoint with
  | stays => exact h
  | works hpending hwork => exact h.2 _
  | passes => exact h
  | learns => exact h _
  | awaits => exact h
  | returns => exact h _

theorem Point.HasCourses.advances {r : Registry} {es : List Happening} {f f' : Frame} (hskills : r.HasCourses)
    (h : f.point.HasCourses) (hadvances : f.Advances r es f') : f'.point.HasCourses := by
  cases hadvances with
  | records => trivial
  | begins hblock hdirective => exact hskills.dispatch _ _
  | succeeds => trivial
  | inStep hpoint => exact h.goesOn hpoint

/-! ### Sessions -/

theorem Session.origin_new {settings : Settings} {client : Option Client} {id : String} {s : Session}
    (h : Session.new settings client id = .ok s) :
    s.origin = ((settings.defaultContext : WideString), client.map Client.origin) := by
  have hhome := Contexts.home_new (Workbench.contexts_new h)
  obtain ⟨contexts, hcontexts, hs⟩ := Workbench.bind_eq_ok h
  cases hs
  exact congrArg (·, client.map Client.origin) hhome

theorem Session.origin_clear (s : Session) : s.clear.origin = s.origin := by
  unfold Session.clear Session.origin Contexts.clear
  dsimp only
  cases hcontexts : Contexts.new s.contexts.home with
  | error f => rfl
  | ok contexts => exact congrArg (·, s.client.map Client.origin) (Contexts.home_new hcontexts)

theorem Session.origin_remember (run : Run) (result : Except Failure RunReport) (s : Session) :
    (run.remember result s).origin = s.origin := by
  obtain ⟨last, h⟩ := run.remember_eq result s
  rw [h]
  rfl

theorem Session.origin_resetModel (s : Session) : s.resetModel.origin = s.origin := by
  unfold Session.origin resetModel
  rw [Option.map_map]
  rfl

/-- A piece of work that keeps to the api, done in the session. -/
theorem Session.origin_after (s : Session) (run : Run) (host : Host) (pending : List Message) {piece : Work Product}
    (h : piece.HasCourse) :
    (Run.sessionAfter s (piece.run (run.api s host pending)).2).origin = s.origin := by
  obtain ⟨ds, hcourse⟩ := h (run.api s host pending)
  have hhome := hcourse.led.contexts.home
  have hclient := hcourse.origin
  exact Prod.ext hhome hclient

namespace Sessions

variable {s : Sessions} {origin : WideString × Option Client}

/-- All sessions go back to the same, and their home conversation can be made again. -/
def AreRooted (s : Sessions) (origin : WideString × Option Client) : Prop :=
  ∀ n < s.made.length, (s.get n).origin = origin ∧ ∃ home, Contexts.new origin.1 = .ok home

theorem AreRooted.update (h : s.AreRooted origin) {n : Nat} {f : Session → Session}
    (hf : (f (s.get n)).origin = (s.get n).origin) : (s.update n f).AreRooted origin := by
  intro m hm
  rw [length_made_update] at hm
  rw [get_update]
  split
  · rename_i hsame
    rw [hf]
    exact h n hsame.2
  · exact h m hm

theorem AreRooted.add (h : s.AreRooted origin) {x : Session} (hx : x.origin = origin)
    (hhome : ∃ home, Contexts.new origin.1 = .ok home) : (s.add x).1.AreRooted origin := by
  intro m hm
  rw [length_made_add] at hm
  rw [get_add]
  split
  · exact ⟨hx, hhome⟩
  · rename_i hne
    exact h m (by omega)

end Sessions

namespace Workbench

variable {w w' : Workbench} {t n : Nat} {es : List Happening}

/-- What a new session goes back to. -/
def origin (w : Workbench) : WideString × Option Client := (w.settings.defaultContext, w.client.map Client.origin)

/-! ### Moves -/

theorem Opened.rooted {id : String} (h : w.sessions.AreRooted w.origin) (hopened : Opened w id w' n) :
    w'.sessions.AreRooted w.origin := by
  cases hopened with
  | found hn hw =>
      rw [hw]
      exact h
  | made s hn hs hw hlast =>
      rw [hw]
      exact h.add (Session.origin_new hs) ⟨_, contexts_new hs⟩

theorem Carried.rooted {c : Command} (h : w.sessions.AreRooted w.origin) (hcarried : Carried w c w' es) :
    w'.sessions.AreRooted w.origin := by
  cases hcarried with
  | pause | resume | stop =>
      rw [sessions_moved]
      exact h.update rfl
  | @reset id clear n m w' hn hm hsessions hstacks =>
      rw [hsessions]
      refine h.update ?_
      cases clear with
      | true => exact Session.origin_clear _
      | false => rfl
  | @close id n w' hn hsessions hstacks =>
      have hremoved : (w.sessions.remove id).AreRooted w.origin := h
      rw [hsessions]
      exact hremoved.update rfl
  | closeUnknown | phase => exact h

theorem Entered.rooted {o : Order} {result : Except Failure Run} (h : w.sessions.AreRooted w.origin)
    (hentered : Entered w o w' result) : w'.sessions.AreRooted w.origin := by
  cases hentered with
  | unopened | busy => exact h
  | turnedDown hopen hfree hsessions hstacks =>
      rw [hsessions]
      exact (hopen.rooted h).update rfl
  | started hopen hexecutable hfree hidle hsessions hstacks hregistry =>
      rw [hsessions]
      exact (hopen.rooted h).update (Session.origin_resetModel _)

theorem Turn.rooted (h : w.sessions.AreRooted w.origin) (hcourses : ∀ f ∈ w.stack t, f.point.HasCourses)
    (hturn : Turn w t w' es) : w'.sessions.AreRooted w.origin := by
  have hchanged : ∀ {v : Workbench} {k : Nat} {g : Session → Session} {s : TaskState}, Changes w t k g s v →
      (g (w.session k)).origin = (w.session k).origin → v.sessions.AreRooted w.origin := by
    intro v k g s hchanges hg
    rw [hchanges.sessions]
    exact h.update hg
  cases hturn with
  | rests hsessions hstacks =>
      rw [hsessions]
      exact h
  | stops hw hphase hchanges => exact hchanged hchanges (Session.origin_remember ..)
  | completes hw hend hactive hchanges => exact hchanged hchanges (Session.origin_remember ..)
  | fails hw hblock hchanges => exact hchanged hchanges (Session.origin_remember ..)
  | records hw hblock hplain hrunning hchanges => exact hchanged hchanges rfl
  | begins hw hblock hdirective hrunning hchanges => exact hchanged hchanges rfl
  | succeeds hw hblock hchanges => exact hchanged hchanges rfl
  | @works run outer pending piece next result api hw hwork hchanges hhost =>
      rw [stack_of_ready hw] at hcourses
      have hcourse := (hcourses _ List.mem_cons_self).1
      have horigin := (w.session run.session).origin_after run w.host pending hcourse
      rw [hwork] at horigin
      have hrooted := hchanged hchanges horigin
      exact hrooted
  | waits hw hchanges => exact hchanged hchanges rfl
  | refused hw hchanges => exact hchanged hchanges rfl
  | enters hw hentered hsessions hstacks =>
      rw [hsessions]
      exact hentered.rooted h
  | turnedAway hw hentered hsessions hstacks =>
      rw [hsessions]
      exact hentered.rooted h
  | commands hw hcarried hsessions hstacks =>
      rw [hsessions]
      exact hcarried.rooted h

/-! ### Histories -/

/-- Every session goes back to what a new one begins with, and skills at work keep to the api. -/
structure IsRooted (w : Workbench) : Prop where
  tenured : Tenured w.sessions w.allStacks
  skills : w.registry.HasCourses
  courses : ∀ t, ∀ f ∈ w.stack t, f.point.HasCourses
  sessions : w.sessions.AreRooted w.origin

theorem IsRooted.courses_serve (h : IsRooted w) (d : HostMove) (t : Nat) :
    ∀ f ∈ (w.serve d).stack t, f.point.HasCourses := by
  obtain ⟨k, hrestacked, hothers⟩ := serve_concerns h.tenured d
  by_cases ht : t = k
  · subst ht
    exact hrestacked.forall (fun _ _ _ _ _ => trivial) (fun _ _ _ _ _ _ _ _ => trivial)
      (fun _ _ _ hf hadvances => hf.advances h.skills hadvances) (h.courses t)
  · rw [hothers t ht]
    exact h.courses t

theorem IsRooted.sessions_serve (h : IsRooted w) (d : HostMove) : (w.serve d).sessions.AreRooted w.origin := by
  have hserved := h.tenured.served d
  generalize (w.serve d).sessions = s at hserved ⊢
  cases hserved with
  | stays => exact h.sessions
  | turns hturn => exact hturn.rooted h.sessions (h.courses _)
  | requests hcarried => exact hcarried.rooted h.sessions
  | starts hentered => exact hentered.rooted h.sessions
  | opens hopened => exact hopened.rooted h.sessions
  | parses hopened => exact (hopened.rooted h.sessions).update rfl
  | opensApart hopened => exact hopened.rooted h.sessions
  | startsApart hopened hfree => exact (hopened.rooted h.sessions).update (Session.origin_resetModel _)
  | @cancels t =>
      exact h.tenured.cancelled (p := (·.AreRooted w.origin)) t h.sessions fun s f _ m hs _ _ => hs.update rfl

theorem IsRooted.serve (h : IsRooted w) (d : HostMove) : IsRooted (w.serve d) where
  tenured := h.tenured.pass (serve_handsOver h.tenured d)
  skills := (registry_serve w d).symm ▸ h.skills
  courses := h.courses_serve d
  sessions := by
    obtain ⟨hsettings, hclient, -⟩ := serve_keeps w d
    have horigin : (w.serve d).origin = w.origin := by rw [origin, hsettings, hclient, origin]
    rw [horigin]
    exact h.sessions_serve d

theorem IsRooted.following (h : IsRooted w) (ds : List HostMove) : IsRooted (w.following ds) := by
  induction ds generalizing w with
  | nil => exact h
  | cons d ds ih => exact ih (h.serve d)

end Workbench

end Playbook
