import Playbook.Proofs.Session.Identity
import Playbook.Proofs.Session.Outcome
/-!
# What the highlights of a session show

Highlights are kept beside the machine of a session, and whoever moves the machine has to see to them. What they are to
show is read off the history: the directive that the latest run of the session came to last, and the one whose step
failed. A session that is open shows the first just while a run has it, and the second just while its machine has failed.
Stopping, cancelling and resetting clear both, so all that carries the proof is that a step in progress is the step of
the directive that its run came to last.
-/

namespace Playbook

/-! ### The latest run of a session -/

/-- The directive that the latest run of session `n` came to last. -/
def Happening.dispatched (n : Nat) (last : Option Block) : Happening → Option Block
  | started m => if m = n then none else last
  | began m _ b => if m = n ∧ b.isDirective = true then some b else last
  | paused _ | resumed _ | stopped _ | ended .. | left .. => last

/-- What becomes of the latest run of a session: the directive that it came to last, and the one whose step failed. -/
structure LatestRun where
  dispatched : Option Block
  failed : Option Block

namespace LatestRun

/-- The step that ends is that of the directive that the run came to last. -/
def failedAfter (n : Nat) (l : LatestRun) : Happening → Option Block
  | .started m => if m = n then none else l.failed
  | .ended m _ (.error _) => if m = n then l.dispatched else l.failed
  | .ended _ _ (.ok _) | .began .. | .paused _ | .resumed _ | .stopped _ | .left .. => l.failed

def hear (n : Nat) (l : LatestRun) (e : Happening) : LatestRun := ⟨e.dispatched n l.dispatched, l.failedAfter n e⟩

end LatestRun

def latestRun (n : Nat) (es : List Happening) : LatestRun := es.foldl (LatestRun.hear n) ⟨none, none⟩

section LatestRun

variable {n : Nat} {l : LatestRun} {es es' : List Happening}

theorem dispatched_isTally : Workbench.IsTally Happening.dispatched where
  others {n last e} he := by
    cases e with
    | started m => exact if_neg he
    | began m i b => exact if_neg fun h => he h.1
    | paused | resumed | stopped | ended | left => rfl
  unmarked {n last e} hmark := by
    cases e with
    | started | began => cases hmark
    | paused | resumed | stopped | ended | left => rfl

theorem LatestRun.hear_of_others {e : Happening} (he : e.session ≠ n) : l.hear n e = l := by
  have hfailed : l.failedAfter n e = l.failed := by
    cases e with
    | started m => exact if_neg he
    | ended m queued result =>
        cases result with
        | ok messages => rfl
        | error f => exact if_neg he
    | began | paused | resumed | stopped | left => rfl
  rw [hear, dispatched_isTally.others he, hfailed]

/-- Happenings that the latest run does not hear of. -/
theorem latestRun_append_of_deaf (h : ∀ e ∈ es', ∀ l : LatestRun, l.hear n e = l) :
    latestRun n (es ++ es') = latestRun n es := by
  rw [latestRun, List.foldl_append, ← latestRun]
  induction es' with
  | nil => rfl
  | cons e es' ih =>
      obtain ⟨he, hes⟩ := List.forall_mem_cons.1 h
      rw [List.foldl_cons, he, ih hes]

theorem latestRun_append_of_others (h : ∀ e ∈ es', e.session ≠ n) : latestRun n (es ++ es') = latestRun n es :=
  latestRun_append_of_deaf fun e he _ => LatestRun.hear_of_others (h e he)

theorem latestRun_concat (e : Happening) : latestRun n (es ++ [e]) = (latestRun n es).hear n e :=
  List.foldl_concat ..

theorem dispatched_latestRun (n : Nat) (es : List Happening) :
    (latestRun n es).dispatched = es.foldl (Happening.dispatched n) none :=
  (List.foldl_hom LatestRun.dispatched fun _ _ => rfl).symm

end LatestRun

/-! ### Steps in progress -/

namespace Workbench

/-- A step in progress is that of the directive that its run came to last. -/
theorem dispatched_tallied (r : Registry) :
    Tallied r Happening.dispatched fun f last => f.point ≠ .boundary → last = f.run.blocks[f.run.next]? where
  new _ hpoint := absurd rfl hpoint
  advances {es f f' last} hadvances hlast hpoint := by
    cases hadvances with
    | records hblock hplain => exact absurd rfl hpoint
    | begins hblock hdirective =>
        rw [hblock]
        exact if_pos ⟨rfl, hdirective⟩
    | succeeds hblock => exact absurd rfl hpoint
    | inStep hgoes =>
        refine hlast fun hboundary => hpoint ?_
        cases hboundary
        exact Frame.boundary_of_goesOn hgoes

end Workbench

/-! ### Sessions -/

namespace Session

/-- The highlights of a session are those of its latest run. -/
structure Shows (s : Session) (l : LatestRun) : Prop where
  current : s.highlights.current =
    if s.machine.phase.isTaken then l.dispatched.map fun b => (b.line : Int) else none
  failed : s.highlights.failed = if s.machine.phase = .failed then l.failed.map fun b => (b.line : Int) else none
  isFailed : s.machine.phase = .failed → l.failed.isSome = true

variable {s s' : Session} {l : LatestRun} {m : Machine}

/-- An idle session with no highlights has nothing to show, whatever its latest run was. -/
theorem shows_of_idle (hhighlights : s.highlights = .none) (hidle : s.machine.phase = .idle) (l : LatestRun) :
    s.Shows l := by
  refine ⟨?_, ?_, fun hfailed => ?_⟩
  · rw [hhighlights, hidle]
    rfl
  · rw [hhighlights, hidle]
    rfl
  · rw [hidle] at hfailed
    cases hfailed

/-- Only the highlights and the machine count. -/
theorem Shows.congr (h : s.Shows l) (hhighlights : s'.highlights = s.highlights) (hmachine : s'.machine = s.machine) :
    s'.Shows l := by
  refine ⟨?_, ?_, ?_⟩
  · rw [hhighlights, hmachine]
    exact h.current
  · rw [hhighlights, hmachine]
    exact h.failed
  · rw [hmachine]
    exact h.isFailed

theorem Shows.remember (h : s.Shows l) (run : Run) (result : Except Failure RunReport) :
    (run.remember result s).Shows l := by
  obtain ⟨last, hlast⟩ := run.remember_eq result s
  rw [hlast]
  exact h.congr rfl rfl

/-- A machine that a run has may go from one of its phases to another. -/
theorem Shows.setTaken (h : s.Shows l) (hs : s.machine.phase.isTaken = true) (hm : m.phase.isTaken = true) :
    ({ s with machine := m } : Session).Shows l := by
  have hne : ∀ {p : Phase}, p.isTaken = true → p ≠ .failed := by
    rintro p hp rfl
    cases hp
  refine ⟨?_, ?_, fun hfailed => absurd hfailed (hne hm)⟩
  · rw [h.current, if_pos hs, if_pos hm]
  · rw [h.failed, if_neg (hne hs), if_neg (hne hm)]

theorem Shows.stop (h : s.Shows l) : ({ s with machine := s.machine.stop.1 } : Session).Shows l := by
  cases hactive : s.machine.isActive with
  | true =>
      rw [Machine.stop_of_active hactive]
      exact h.setTaken (Machine.isTaken_of_isActive hactive) rfl
  | false =>
      rw [Machine.stop_of_not_active hactive]
      exact h

/-- A new session is idle. -/
theorem shows_new {settings : Settings} {client : Option Client} {id : String} (h : new settings client id = .ok s)
    (l : LatestRun) : s.Shows l := by
  obtain ⟨contexts, -, hs⟩ := Workbench.bind_eq_ok h
  cases hs
  exact shows_of_idle rfl rfl l

/-- A run that takes an idle session has not come to a directive yet. -/
theorem Shows.begun (h : s.Shows l) (hidle : s.machine.phase = .idle) (d : Document) :
    (Workbench.begun d s).Shows ⟨none, none⟩ := by
  have hcurrent : s.highlights.current = none := by
    rw [h.current, hidle]
    rfl
  have hfailed : s.highlights.failed = none := by
    rw [h.failed, hidle]
    rfl
  exact ⟨hcurrent, hfailed, Phase.noConfusion⟩

end Session

/-! ### Open sessions -/

namespace Sessions

/-- All sessions that are open show their latest runs. -/
def AreShown (s : Sessions) (es : List Happening) : Prop := ∀ n, s.IsOpen n → (s.get n).Shows (latestRun n es)

variable {s : Sessions} {es es' : List Happening} {n : Nat} {id : String} {g : Session → Session}

theorem AreShown.update (h : s.AreShown es) (hn : n < s.made.length) (hes : ∀ e ∈ es', e.session = n)
    (hg : (s.get n).Shows (latestRun n es) → (g (s.get n)).Shows (latestRun n (es ++ es'))) :
    (s.update n g).AreShown (es ++ es') := by
  rintro m ⟨id, hm⟩
  have hshown := h m ⟨id, hm⟩
  by_cases hmn : m = n
  · subst hmn
    rw [get_update_same s g hn]
    exact hg hshown
  · rw [get_update_other s g hmn, latestRun_append_of_others fun e he hsession => hmn (hsession.symm.trans (hes e he))]
    exact hshown

/-- A change without a happening. -/
theorem AreShown.touch (h : s.AreShown es) (hn : n < s.made.length)
    (hg : (s.get n).Shows (latestRun n es) → (g (s.get n)).Shows (latestRun n es)) : (s.update n g).AreShown es := by
  have hsame : es ++ [] = es := List.append_nil es
  have hupdated : (s.update n g).AreShown (es ++ []) := h.update hn (List.forall_mem_nil _) (hsame.symm ▸ hg)
  rwa [hsame] at hupdated

theorem AreShown.deaf (h : s.AreShown es) (hes : ∀ e ∈ es', ∀ n, ∀ l : LatestRun, l.hear n e = l) :
    s.AreShown (es ++ es') := by
  intro n hn
  rw [latestRun_append_of_deaf fun e he l => hes e he n l]
  exact h n hn

theorem AreShown.add (h : s.AreShown es) {x : Session} (hx : ∀ l, x.Shows l) : (s.add x).1.AreShown es := by
  rintro m ⟨id, hm⟩
  rw [get_add]
  by_cases hlast : m = s.made.length
  · rw [if_pos hlast]
    exact hx _
  · rw [if_neg hlast]
    rw [number?_add] at hm
    rcases Option.or_eq_some_iff.1 hm with hold | ⟨-, hnew⟩
    · exact h m ⟨id, hold⟩
    · split at hnew
      · exact absurd (Option.some.inj hnew).symm hlast
      · cases hnew

/-- A session that is closed need not show anything any more. -/
theorem AreShown.close (h : s.AreShown es) (hfiled : s.IsFiled) (hn : s.number? id = some n) :
    ((s.remove id).update n g).AreShown es := by
  rintro m ⟨id', hm⟩
  have hm' : (s.remove id).number? id' = some m := hm
  rw [number?_remove] at hm'
  split at hm'
  · cases hm'
  · rename_i hid
    have hmn : m ≠ n := by
      rintro rfl
      exact hid ((hfiled.named id' _ hm').symm.trans (hfiled.named id _ hn))
    rw [get_update_other _ _ hmn]
    exact h m ⟨id', hm'⟩

end Sessions

/-! ### Moves -/

namespace Workbench

variable {w w' : Workbench} {t n : Nat} {es es' : List Happening}

/-- Every session that is open shows its latest run, and every step in progress is the step that its session shows. -/
structure IsShown (w : Workbench) (es : List Happening) : Prop where
  tenured : Tenured w.sessions w.allStacks
  filed : w.sessions.IsFiled
  steps : ∀ t, ∀ f ∈ w.stack t, f.point ≠ .boundary →
    es.foldl (Happening.dispatched f.run.session) none = f.run.blocks[f.run.next]?
  sessions : w.sessions.AreShown es

theorem Opened.shown {id : String} (h : w.sessions.AreShown es) (hopened : Opened w id w' n) :
    w'.sessions.AreShown es := by
  cases hopened with
  | found hn hw =>
      rw [hw]
      exact h
  | made s hn hs hw hlast =>
      rw [hw]
      exact h.add (Session.shows_new hs)

/-- Requests are heard by machines only, a reset and the close of a session clear its highlights. -/
theorem Carried.shown {c : Command} (h : IsShown w es) (hcarried : Carried w c w' es') :
    w'.sessions.AreShown (es ++ es') := by
  cases hcarried with
  | @pause id n m hn hm =>
      rw [sessions_moved]
      refine Sessions.AreShown.deaf (h.sessions.touch (h.tenured.ids.lt_of_number? hn) fun hshows => ?_) ?_
      · rcases Machine.pause_eq_ok.1 hm with ⟨-, rfl⟩ | ⟨hrunning, rfl⟩
        · exact hshows
        · exact hshows.setTaken (by rw [← session_eq, hrunning]; rfl) rfl
      · exact List.forall_mem_singleton.2 fun _ _ => rfl
  | @resume id n m hn hm =>
      obtain ⟨hpaused, rfl⟩ := Machine.resume_eq_ok.1 hm
      rw [sessions_moved]
      refine Sessions.AreShown.deaf (h.sessions.touch (h.tenured.ids.lt_of_number? hn) fun hshows => ?_) ?_
      · exact hshows.setTaken (by rw [← session_eq, hpaused]; rfl) rfl
      · exact List.forall_mem_singleton.2 fun _ _ => rfl
  | @stop id n hn =>
      rw [sessions_moved]
      refine Sessions.AreShown.deaf (h.sessions.touch (h.tenured.ids.lt_of_number? hn) fun hshows => hshows.stop) ?_
      split
      · exact List.forall_mem_singleton.2 fun _ _ => rfl
      · exact List.forall_mem_nil _
  | @reset id clear n m w' hn hm hsessions hstacks =>
      obtain ⟨-, -, rfl⟩ := Machine.reset_eq_ok.1 hm
      rw [hsessions, List.append_nil]
      refine h.sessions.touch (h.tenured.ids.lt_of_number? hn) fun _ => ?_
      cases clear with
      | true => exact Session.shows_of_idle rfl rfl _
      | false => exact Session.shows_of_idle rfl rfl _
  | close hn hsessions hstacks =>
      rw [hsessions]
      refine Sessions.AreShown.deaf (h.sessions.close h.filed hn) ?_
      split
      · exact List.forall_mem_singleton.2 fun _ _ => rfl
      · exact List.forall_mem_nil _
  | closeUnknown | phase =>
      rw [List.append_nil]
      exact h.sessions

/-- An order that is not carried out shows in no session. -/
theorem Entered.shown_error {o : Order} {f : Failure} (h : IsShown w es) (hentered : Entered w o w' (.error f)) :
    w'.sessions.AreShown es := by
  cases hentered with
  | unopened | busy => exact h.sessions
  | turnedDown hopened hfree hsessions hstacks =>
      rw [hsessions]
      exact (hopened.shown h.sessions).touch (hopened.lt_length h.tenured.ids) fun hshows => hshows.congr rfl rfl

/-- A run starts without a highlight, as its session was idle. -/
theorem Entered.shown_ok {o : Order} {run : Run} (h : IsShown w es) (hentered : Entered w o w' (.ok run)) :
    w'.sessions.AreShown (es ++ [.started run.session]) := by
  cases hentered with
  | @started w₀ _ n hopened hexecutable hfree hidle hsessions hstacks hregistry =>
      rw [hsessions]
      refine (hopened.shown h.sessions).update (hopened.lt_length h.tenured.ids) (List.forall_mem_singleton.2 rfl)
        fun hshows => ?_
      have hlatest : latestRun n (es ++ [.started n]) = ⟨none, none⟩ := by
        rw [latestRun_concat, LatestRun.hear, LatestRun.failedAfter, Happening.dispatched, if_pos rfl, if_pos rfl]
      change (begun (Document.parse o.text) (w₀.session n)).Shows (latestRun n (es ++ [.started n]))
      rw [hlatest]
      exact hshows.begun hidle _

theorem Turn.shown (h : IsShown w es) (hturn : Turn w t w' es') : w'.sessions.AreShown (es ++ es') := by
  have hchanged : ∀ {run : Run} {point : Point} {outer : List Frame} {g : Session → Session} {s : TaskState}
      {v : Workbench} {es' : List Happening}, w.task t = .ready (⟨run, point⟩ :: outer) →
      Changes w t run.session g s v → (∀ e ∈ es', e.session = run.session) →
      ((w.session run.session).machine.phase.isTaken = true →
        (w.session run.session).Shows (latestRun run.session es) →
        (g (w.session run.session)).Shows (latestRun run.session (es ++ es'))) → v.sessions.AreShown (es ++ es') := by
    intro run point outer g s v es' hw hchanges hes hg
    obtain ⟨-, -, -, htaken⟩ := h.tenured.stack (stack_of_ready hw)
    rw [hchanges.sessions]
    exact h.sessions.update (Sessions.lt_length_of_taken htaken) hes (hg htaken)
  -- Nothing happens, and the run leaves the highlights and the machine of its session alone.
  have hkept : ∀ {run : Run} {point : Point} {outer : List Frame} {g : Session → Session} {s : TaskState}
      {v : Workbench}, w.task t = .ready (⟨run, point⟩ :: outer) → Changes w t run.session g s v →
      (∀ {l : LatestRun}, (w.session run.session).Shows l → (g (w.session run.session)).Shows l) →
      v.sessions.AreShown (es ++ []) := by
    intro run point outer g s v hw hchanges hg
    refine hchanged hw hchanges (List.forall_mem_nil _) fun _ hshows => ?_
    rw [List.append_nil]
    exact hg hshows
  cases hturn with
  | rests hsessions hstacks =>
      rw [hsessions, List.append_nil]
      exact h.sessions
  | stops hw hphase hchanges =>
      exact hchanged hw hchanges (List.forall_mem_singleton.2 rfl) fun _ _ =>
        (Session.shows_of_idle rfl rfl _).remember _ _
  | completes hw hend hactive hchanges =>
      exact hchanged hw hchanges (List.forall_mem_singleton.2 rfl) fun _ _ =>
        (Session.shows_of_idle rfl rfl _).remember _ _
  | @records run outer block hw hblock hplain hrunning hchanges =>
      refine hchanged hw hchanges (List.forall_mem_singleton.2 rfl) fun _ hshows => ?_
      have hlatest : latestRun run.session (es ++ [.began run.session run.next block]) = latestRun run.session es := by
        rw [latestRun_concat, LatestRun.hear, Happening.dispatched, if_neg fun hd => by simp [hplain] at hd]
        rfl
      rw [hlatest]
      exact hshows.congr rfl rfl
  | @begins run outer block hw hblock hdirective hrunning hchanges =>
      refine hchanged hw hchanges (List.forall_mem_singleton.2 rfl) fun htaken _ => ?_
      have hlatest : latestRun run.session (es ++ [.began run.session run.next block]) =
          ⟨some block, (latestRun run.session es).failed⟩ := by
        rw [latestRun_concat, LatestRun.hear, Happening.dispatched, if_pos ⟨rfl, hdirective⟩]
        rfl
      rw [hlatest]
      refine ⟨(if_pos htaken).symm, ?_, fun hfailed => ?_⟩
      · exact (if_neg fun hfailed => by rw [hrunning] at hfailed; cases hfailed).symm
      · rw [hrunning] at hfailed
        cases hfailed
  | succeeds hw hblock hchanges =>
      refine hchanged hw hchanges (List.forall_mem_singleton.2 rfl) fun _ hshows => ?_
      rw [latestRun_append_of_deaf (List.forall_mem_singleton.2 fun _ => rfl)]
      exact hshows.congr rfl rfl
  | @fails run outer pending f block hw hblock hchanges =>
      refine hchanged hw hchanges (List.forall_mem_cons.2 ⟨rfl, List.forall_mem_singleton.2 rfl⟩) fun _ _ => ?_
      -- The step that fails is the one in progress, so it is the one that the run came to last.
      have hstep := h.steps t ⟨run, .working pending (.finish (.error f))⟩
        (by rw [stack_of_ready hw]; exact List.mem_cons_self) Point.noConfusion
      have hlatest : latestRun run.session
          (es ++ [.ended run.session pending (.error f), .left run.session (w'.session run.session).lastRun]) =
          ⟨some block, some block⟩ := by
        rw [List.append_cons, latestRun_concat, latestRun_concat]
        change (⟨(latestRun run.session es).dispatched, if run.session = run.session then
          (latestRun run.session es).dispatched else (latestRun run.session es).failed⟩ : LatestRun) = _
        rw [if_pos rfl, dispatched_latestRun, hstep, hblock]
      rw [hlatest]
      exact Session.Shows.remember ⟨rfl, rfl, fun _ => rfl⟩ _ _
  | works hw hwork hchanges hhost =>
      have hsame := hkept hw hchanges fun hshows => hshows.congr rfl rfl
      exact hsame
  | waits hw hchanges => exact hkept hw hchanges id
  | refused hw hchanges => exact hkept hw hchanges id
  | enters hw hentered hsessions hstacks =>
      rw [hsessions]
      exact hentered.shown_ok h
  | turnedAway hw hentered hsessions hstacks =>
      rw [hsessions, List.append_nil]
      exact hentered.shown_error h
  | commands hw hcarried hsessions hstacks =>
      rw [hsessions]
      exact hcarried.shown h

/-- Whoever is cancelled leaves no highlight behind. -/
theorem cancel_shown (h : IsShown w es) (t : Nat) :
    (w.cancel t).1.sessions.AreShown (es ++ w.happenings (.cancel t)) := by
  refine Sessions.AreShown.deaf ?_ ?_
  · exact h.tenured.cancelled (p := (·.AreShown es)) t h.sessions fun s f _ m hs hn hidle =>
      hs.touch hn fun _ => Session.shows_of_idle rfl hidle _
  · exact List.forall_mem_map.2 fun f _ _ _ => rfl

theorem move_shown (h : IsShown w es) (m : Move) : (w.move m).sessions.AreShown (es ++ w.happenings m) := by
  have hquiet : ∀ {v : Workbench}, v.sessions.AreShown es → v.sessions.AreShown (es ++ []) := by
    intro v hv
    rw [List.append_nil]
    exact hv
  cases m with
  | turn t => exact (h.tenured.turn t).shown h
  | rouse =>
      refine hquiet ?_
      rw [(move_rouse w).1]
      exact h.sessions
  | request c =>
      rcases move_request w c with hcarried | ⟨hw, hnone⟩
      · exact hcarried.shown h
      · rw [hw]
        change w.sessions.AreShown (es ++ w.granted c)
        rw [hnone]
        exact hquiet h.sessions
  | start o =>
      change (w.move (.start o)).sessions.AreShown (es ++ w.admitted o)
      rcases start_cases w o with ⟨f, w₁, hentered, hnone, hsessions, -⟩ | ⟨run, w₁, hentered, hone, hsessions, -⟩
      · rw [hsessions, hnone]
        exact hquiet (hentered.shown_error h)
      · rw [hsessions, hone]
        exact hentered.shown_ok h
  | openSession id =>
      refine hquiet ?_
      rcases move_openSession w id with ⟨n, hopened⟩ | hw
      · exact hopened.shown h.sessions
      · rw [hw]
        exact h.sessions
  | parse id text =>
      refine hquiet ?_
      rcases move_parse w id text with ⟨w₀, n, hopened, -, hsessions⟩ | hw
      · rw [hsessions]
        exact (hopened.shown h.sessions).touch (hopened.lt_length h.tenured.ids) fun hshows => hshows.congr rfl rfl
      · rw [hw]
        exact h.sessions
  | release gate =>
      refine hquiet ?_
      rw [(move_release w gate).1]
      exact h.sessions
  | cancel t => exact cancel_shown h t

theorem IsShown.move (h : IsShown w es) (m : Move) : IsShown (w.move m) (es ++ w.happenings m) where
  tenured := h.tenured.pass (serve_handsOver h.tenured (.move m))
  filed := serve_filed h.tenured h.filed (.move m)
  steps := serve_tallies h.tenured dispatched_isTally (dispatched_tallied w.registry) h.steps (.move m)
  sessions := move_shown h m

theorem IsShown.after (h : IsShown w es) (ms : List Move) : IsShown (w.after ms) (es ++ w.chronicle ms) := by
  induction ms generalizing w es with
  | nil =>
      rw [chronicle, List.append_nil]
      exact h
  | cons m ms ih =>
      rw [chronicle, ← List.append_assoc]
      exact ih (h.move m)

theorem new_isShown (registry : Registry) (settings : Settings) (client : Option Client) (host : Host) :
    IsShown (new registry settings client host) [] where
  tenured := new_tenured registry settings client host
  filed := new_filed registry settings client host
  steps t f hf := by
    have hnone : (new registry settings client host).stack t = [] := by simp [stack_eq, allStacks, new]
    rw [hnone] at hf
    cases hf
  sessions n hn := by
    obtain ⟨id, hid⟩ := hn
    cases hid

end Workbench

/-! ### Highlights and machines -/

/-- What the highlights of a session have to do with its machine and with its latest run. -/
structure Session.IsHighlighted (s : Session) (l : LatestRun) : Prop where
  apart : ¬(s.highlights.current.isSome = true ∧ s.highlights.failed.isSome = true)
  failed_iff : s.highlights.failed.isSome = true ↔ s.machine.phase = .failed
  failed : ∀ line, s.highlights.failed = some line → ∃ b, l.failed = some b ∧ line = b.line
  current : ∀ line, s.highlights.current = some line →
    s.machine.isOwned = true ∧ ∃ b, l.dispatched = some b ∧ line = b.line
  /-- And a run that came to a directive shows it. -/
  shown : s.machine.isOwned = true → s.highlights.current = l.dispatched.map fun b => (b.line : Int)

theorem Session.Shows.isHighlighted {s : Session} {l : LatestRun} (h : s.Shows l) (hsound : s.machine.IsSound) :
    s.IsHighlighted l := by
  have hcurrent : ∀ line, s.highlights.current = some line →
      s.machine.phase.isTaken = true ∧ ∃ b, l.dispatched = some b ∧ line = b.line := by
    intro line hline
    rw [h.current, Option.ite_none_right_eq_some] at hline
    obtain ⟨htaken, hmap⟩ := hline
    obtain ⟨b, hb, rfl⟩ := Option.map_eq_some_iff.1 hmap
    exact ⟨htaken, b, hb, rfl⟩
  have hfailed : ∀ line, s.highlights.failed = some line →
      s.machine.phase = .failed ∧ ∃ b, l.failed = some b ∧ line = b.line := by
    intro line hline
    rw [h.failed, Option.ite_none_right_eq_some] at hline
    obtain ⟨hphase, hmap⟩ := hline
    obtain ⟨b, hb, rfl⟩ := Option.map_eq_some_iff.1 hmap
    exact ⟨hphase, b, hb, rfl⟩
  refine ⟨?_, ⟨fun hsome => ?_, fun hphase => ?_⟩, fun line hline => (hfailed line hline).2, fun line hline => ?_,
    fun howned => ?_⟩
  · rintro ⟨hsome, hsome'⟩
    obtain ⟨line, hline⟩ := Option.isSome_iff_exists.1 hsome
    obtain ⟨line', hline'⟩ := Option.isSome_iff_exists.1 hsome'
    have htaken := (hcurrent line hline).1
    rw [(hfailed line' hline').1] at htaken
    cases htaken
  · obtain ⟨line, hline⟩ := Option.isSome_iff_exists.1 hsome
    exact (hfailed line hline).1
  · rw [h.failed, if_pos hphase, Option.isSome_map]
    exact h.isFailed hphase
  · rw [hsound]
    exact hcurrent line hline
  · rw [h.current, if_pos (hsound ▸ howned)]

namespace Workbench

/-- After every history the highlights of every session that is open agree with its machine and with its latest run. -/
theorem after_highlighted (registry : Registry) (settings : Settings) (client : Option Client) (host : Host)
    (ms : List Move) {id : String} {n : Nat}
    (hn : ((new registry settings client host).after ms).sessions.number? id = some n) :
    (((new registry settings client host).after ms).session n).IsHighlighted
      (latestRun n ((new registry settings client host).chronicle ms)) := by
  have h := (new_isShown registry settings client host).after ms
  rw [List.nil_append] at h
  exact (h.sessions n ⟨id, hn⟩).isHighlighted (h.tenured.machines n)

/-- A run behind some text comes to a directive that nobody registered. -/
theorem failed_highlighted :
    let ms : List Move := [.start ⟨"s", "Hi\n@gone", .nobody⟩, .turn 0, .turn 0, .turn 0]
    (Held.bench.after ms).sessions.number? "s" = some 0 ∧
      ((Held.bench.after ms).session 0).highlights = ⟨none, some 2⟩ ∧
      ((Held.bench.after ms).session 0).IsHighlighted (latestRun 0 (Held.bench.chronicle ms)) := by
  intro ms
  have hn : (Held.bench.after ms).sessions.number? "s" = some 0 := by decide +kernel
  have hhighlights : ((Held.bench.after ms).session 0).highlights = ⟨none, some 2⟩ := by decide +kernel
  exact ⟨hn, hhighlights, after_highlighted _ _ _ _ ms hn⟩

end Workbench

end Playbook
