import Playbook.Proofs.Session.Announcement
import Playbook.Proofs.Session.Stacks
import Playbook.Session.Record
/-!
# How a run may end

A run that returns a report has succeeded, was stopped or has failed, and its report, the machine and the highlights of
its session, the blocks that it has begun with and what its observer hears agree on which of the three. What carries
the proof is the account that a run keeps of itself: at every moment its steps are the directives that it has behind it,
all of them successful.
-/

namespace Playbook

/-! ### The account of a run -/

/-- The indices below `k` of directives. -/
def directives (blocks : List Block) (k : Nat) : List Nat :=
  (List.range k).filter fun i => blocks[i]?.any (·.isDirective)

theorem directives_succ (blocks : List Block) {k : Nat} {b : Block} (hb : blocks[k]? = some b) :
    directives blocks (k + 1) = directives blocks k ++ if b.isDirective then [k] else [] := by
  rw [directives, List.range_succ, List.filter_append, List.filter_singleton, hb,
    Option.any_some, cond_eq_ite]
  rfl

/-- The step of one of the blocks. -/
def StepReport.IsOf (blocks : List Block) (s : StepReport) : Prop :=
  ∃ b, blocks[s.index]? = some b ∧ s.name = b.name ∧ s.line = b.line

namespace Frame

/-- The steps of a run are those of the directives that it has behind it, and all of them succeeded. -/
structure Accounts (f : Frame) : Prop where
  next_le : f.run.next ≤ f.run.blocks.length
  indices : f.run.steps.map (·.index) = directives f.run.blocks f.run.next
  succeeded : ∀ s ∈ f.run.steps, s.isSuccess = true
  isOf : ∀ s ∈ f.run.steps, s.IsOf f.run.blocks
  inStep : f.point ≠ .boundary → ∃ b, f.run.blocks[f.run.next]? = some b ∧ b.isDirective = true

/-- How many blocks the run has begun with. -/
def reached (f : Frame) : Nat := if f.isInStep then f.run.next + 1 else f.run.next

variable {r : Registry} {es : List Happening} {f f' : Frame} {run : Run} {point point' : Point}

theorem accounts_new {text : String} (h : run.IsNew text) : Accounts ⟨run, .boundary⟩ where
  next_le := by simp [h.next]
  indices := by
    simp only [h.steps, h.next]
    rfl
  succeeded := by simp [h.steps]
  isOf := by simp [h.steps]
  inStep hpoint := absurd rfl hpoint

theorem Accounts.inside (h : Accounts ⟨run, point⟩) (hpoint : point ≠ .boundary) (point' : Point) :
    Accounts ⟨run, point'⟩ :=
  ⟨h.next_le, h.indices, h.succeeded, h.isOf, fun _ => h.inStep hpoint⟩

/-- A step more, of the block that comes next. -/
theorem Accounts.isOf_step (h : Accounts f) {block : Block} (hblock : f.run.blocks[f.run.next]? = some block)
    (messages : List Message) (failure : Option Failure) :
    ∀ s ∈ (f.run.addStep (f.run.stepReport block messages failure)).steps, s.IsOf f.run.blocks :=
  List.forall_mem_append.2 ⟨h.isOf, List.forall_mem_singleton.2 ⟨block, hblock, rfl, rfl⟩⟩

theorem Accounts.indices_step (h : Accounts f) {block : Block} (hblock : f.run.blocks[f.run.next]? = some block)
    (hdirective : block.isDirective = true) (messages : List Message) (failure : Option Failure) :
    (f.run.addStep (f.run.stepReport block messages failure)).steps.map (·.index)
      = directives f.run.blocks (f.run.next + 1) := by
  rw [directives_succ _ hblock, if_pos hdirective, ← h.indices]
  exact List.map_append

theorem reached_of_goesOn (h : point.GoesOn point') : reached ⟨run, point'⟩ = reached ⟨run, point⟩ := by
  cases h with
  | stays | works | passes | learns | awaits | returns => rfl

theorem boundary_of_goesOn (h : Point.boundary.GoesOn point') : point' = .boundary := by
  cases h
  rfl

/-- A run that advances keeps its account. -/
theorem Accounts.advances (h : Accounts f) (hadvances : f.Advances r es f') : Accounts f' := by
  cases hadvances with
  | @records run block hblock hplain =>
      refine ⟨(List.getElem?_eq_some_iff.1 hblock).1, ?_, h.succeeded, h.isOf, fun hpoint => absurd rfl hpoint⟩
      change run.steps.map (·.index) = directives run.blocks (run.next + 1)
      rw [directives_succ _ hblock, if_neg (by simp [hplain]), List.append_nil]
      exact h.indices
  | @begins run block hblock hdirective =>
      exact ⟨h.next_le, h.indices, h.succeeded, h.isOf, fun _ => ⟨block, hblock, hdirective⟩⟩
  | @succeeds run pending messages block hblock =>
      obtain ⟨b, hb, hdirective⟩ := h.inStep Point.noConfusion
      cases hblock.symm.trans hb
      exact ⟨(List.getElem?_eq_some_iff.1 hblock).1, h.indices_step hblock hdirective _ none,
        List.forall_mem_append.2 ⟨h.succeeded, List.forall_mem_singleton.2 rfl⟩, h.isOf_step hblock _ none,
        fun hpoint => absurd rfl hpoint⟩
  | @inStep run point point' hpoint =>
      by_cases hboundary : point = .boundary
      · subst hboundary
        rw [boundary_of_goesOn hpoint]
        exact h
      · exact h.inside hboundary point'

end Frame

/-! ### The trail of a run -/

/-- The blocks that the run of a session has begun with since it started. -/
def Happening.trail (n : Nat) (is : List Nat) : Happening → List Nat
  | started m => if m = n then [] else is
  | began m i _ => if m = n then is ++ [i] else is
  | paused _ | resumed _ | stopped _ | ended .. | left .. => is

def trail (n : Nat) (es : List Happening) : List Nat := es.foldl (Happening.trail n) []

theorem trail_isTally : Workbench.IsTally Happening.trail where
  others {n is e} he := by
    cases e with
    | started m => exact if_neg he
    | began m i b => exact if_neg he
    | paused | resumed | stopped | ended | left => rfl
  unmarked {n is e} hmark := by
    cases e with
    | started | began => cases hmark
    | paused | resumed | stopped | ended | left => rfl

theorem foldl_trail_marks (n : Nat) (is : List Nat) (es : List Happening) :
    (marks es).foldl (Happening.trail n) is = es.foldl (Happening.trail n) is := trail_isTally.foldl_marks n is es

/-! ### Runs in progress -/

/-- A run that another run started. -/
structure Run.IsInner (run : Run) : Prop where
  observer : run.observer = .nobody
  remembered : run.isRemembered = true

theorem Run.told_of_inner {run : Run} (h : run.IsInner) (c : Callback) (r : RunReport) : run.told c r = .ok r := by
  rw [told, h.observer]
  rfl

theorem Frame.Advances.isInner {r : Registry} {es : List Happening} {f f' : Frame} (h : f.Advances r es f')
    (hf : f.run.IsInner) : f'.run.IsInner := by
  cases h with
  | records | begins | succeeds | inStep => exact ⟨hf.observer, hf.remembered⟩

namespace Workbench

/-- Every run in progress keeps its account and has begun with its blocks in order. -/
structure Progress (w : Workbench) (es : List Happening) : Prop where
  accounts : ∀ t, ∀ f ∈ w.stack t, f.Accounts
  trails : ∀ t, ∀ f ∈ w.stack t, trail f.run.session es = List.range f.reached
  inner : ∀ t, ∀ f ∈ (w.stack t).dropLast, f.run.IsInner

variable {w w' : Workbench} {d : HostMove} {t : Nat} {es es' : List Happening} {frames frames' outer : List Frame}
  {f : Frame}

/-- A run begins with its blocks in order. -/
theorem trail_tallied (r : Registry) : Tallied r Happening.trail fun f is => is = List.range f.reached where
  new {run text is} hnew := by
    rw [Happening.trail, if_pos rfl, Frame.reached, hnew.next]
    rfl
  advances {es f f' is} hadvances his := by
    subst his
    cases hadvances with
    | records hblock hplain => exact (if_pos rfl).trans List.range_succ.symm
    | begins hblock hdirective => exact (if_pos rfl).trans List.range_succ.symm
    | succeeds hblock => rfl
    | inStep hpoint => exact congrArg List.range (Frame.reached_of_goesOn hpoint).symm

theorem inner_replace {f' : Frame} (h : ∀ g ∈ (f :: outer).dropLast, g.run.IsInner)
    (hf : f.run.IsInner → f'.run.IsInner) : ∀ g ∈ (f' :: outer).dropLast, g.run.IsInner := by
  cases outer with
  | nil => nofun
  | cons g outer =>
      rw [List.dropLast_cons_cons, List.forall_mem_cons] at h ⊢
      exact ⟨hf h.1, h.2⟩

/-- All runs of a task but the outermost one were started by other runs. -/
theorem Restacked.inner (h : Restacked w d es' frames frames') (hframes : ∀ f ∈ frames.dropLast, f.run.IsInner) :
    ∀ f ∈ frames'.dropLast, f.run.IsInner := by
  cases h with
  | stays => exact hframes
  | advances h => exact inner_replace hframes h.isInner
  | pushes hnew hobserver hremembered =>
      rw [List.dropLast_cons_cons, List.forall_mem_cons]
      exact ⟨⟨hobserver, hremembered⟩, inner_replace hframes id⟩
  | @leaves f outer es result hes =>
      unfold left
      split
      · rw [List.dropLast_cons_cons, List.forall_mem_cons] at hframes
        exact inner_replace hframes.2 id
      · nofun
  | starts | ends => nofun

/-! Moves -/

theorem Progress.serve (h : Tenured w.sessions w.allStacks) (hp : Progress w es) (d : HostMove) :
    Progress (w.serve d) (es ++ w.occurrences d) := by
  obtain ⟨t, hrestacked, hothers⟩ := serve_concerns h d
  refine ⟨fun u => ?_, serve_tallies h trail_isTally (trail_tallied w.registry) hp.trails d, fun u => ?_⟩
  · by_cases hu : u = t
    · subst hu
      exact hrestacked.forall (fun _ _ _ hnew _ => Frame.accounts_new hnew)
        (fun _ _ _ _ _ _ _ hnew => Frame.accounts_new hnew) (fun _ _ _ hf => hf.advances) (hp.accounts u)
    · rw [hothers u hu]
      exact hp.accounts u
  · by_cases hu : u = t
    · subst hu
      exact hrestacked.inner (hp.inner u)
    · rw [hothers u hu]
      exact hp.inner u

theorem following_progress (h : Tenured w.sessions w.allStacks) (hp : Progress w es) (ds : List HostMove) :
    Progress (w.following ds) (es ++ w.annals ds) := by
  induction ds generalizing w es with
  | nil =>
      rw [annals, List.append_nil]
      exact hp
  | cons d ds ih =>
      rw [annals, ← List.append_assoc]
      exact ih (h.pass (serve_handsOver h d)) (hp.serve h d)

theorem new_progress (registry : Registry) (settings : Settings) (client : Option Client) (host : Host) :
    Progress (new registry settings client host) [] := by
  have hnone : ∀ t, (new registry settings client host).stack t = [] := fun t => by simp [stack_eq, allStacks, new]
  refine ⟨fun t => ?_, fun t => ?_, fun t => ?_⟩
  all_goals
    rw [hnone]
    exact List.forall_mem_nil _

end Workbench

/-! ### Verdicts -/

/-- The run began with the blocks below `k`, with each once and in order, and carried out the directives among them. -/
structure RunReport.Covers (r : RunReport) (blocks : List Block) (is : List Nat) (k : Nat) : Prop where
  le : k ≤ blocks.length
  trail : is = List.range k
  indices : r.steps.map (·.index) = directives blocks k
  isOf : ∀ s ∈ r.steps, s.IsOf blocks

inductive Verdict where
  | succeeded
  | stopped
  | failed
deriving DecidableEq

/-- A run through all its blocks. -/
structure RunReport.Succeeded (r : RunReport) (blocks : List Block) (s : Session) (is : List Nat) : Prop where
  isSuccess : r.isSuccess = true
  isStopped : r.isStopped = false
  error : r.error = none
  failedLine : r.failedLine = none
  steps : ∀ s ∈ r.steps, s.isSuccess = true
  covers : r.Covers blocks is blocks.length
  phase : r.phase = .idle
  machine : s.machine.phase = .idle
  highlights : s.highlights = .none

/-- A run through some of the first of its blocks. -/
structure RunReport.Stopped (r : RunReport) (blocks : List Block) (s : Session) (is : List Nat) : Prop where
  isSuccess : r.isSuccess = false
  isStopped : r.isStopped = true
  error : r.error = none
  failedLine : r.failedLine = none
  steps : ∀ s ∈ r.steps, s.isSuccess = true
  covers : ∃ k, r.Covers blocks is k
  phase : r.phase = .idle
  machine : s.machine.phase = .idle
  highlights : s.highlights = .none

/-- A run up to a step that failed. -/
structure RunReport.Failed (r : RunReport) (blocks : List Block) (s : Session) (is : List Nat) : Prop where
  isSuccess : r.isSuccess = false
  isStopped : r.isStopped = false
  steps : ∃ done last, r.steps = done ++ [last] ∧ (∀ s ∈ done, s.isSuccess = true) ∧ last.isSuccess = false ∧
    r.error = last.error ∧ r.failedLine = some last.line ∧ r.Covers blocks is (last.index + 1) ∧
    s.highlights = ⟨none, some (last.line : Int)⟩
  phase : r.phase = .failed
  machine : s.machine.phase = .failed

/-- What a verdict on a run means for its report, its session and the blocks that it began with. -/
def Verdict.Fits (r : RunReport) (blocks : List Block) (s : Session) (is : List Nat) : Verdict → Prop
  | succeeded => r.Succeeded blocks s is
  | stopped => r.Stopped blocks s is
  | failed => r.Failed blocks s is

/-- The report alone tells the verdict. -/
theorem Verdict.Fits.unique {r : RunReport} {blocks : List Block} {s : Session} {is : List Nat} {v v' : Verdict}
    (h : v.Fits r blocks s is) (h' : v'.Fits r blocks s is) : v = v' := by
  have hread : ∀ {u : Verdict}, u.Fits r blocks s is →
      u = if r.isSuccess then succeeded else if r.isStopped then stopped else failed := by
    intro u hu
    cases u with
    | succeeded => rw [hu.isSuccess, if_pos rfl]
    | stopped => rw [hu.isSuccess, hu.isStopped, if_neg Bool.false_ne_true, if_pos rfl]
    | failed => rw [hu.isSuccess, hu.isStopped, if_neg Bool.false_ne_true, if_neg Bool.false_ne_true]
  rw [hread h, hread h']

/-! ### Tasks -/

namespace TaskState

variable {s : TaskState} {run : Run} {r : RunReport}

/-- The run of the task, if it has no other one and stands at a boundary. -/
def alone? : TaskState → Option Run
  | ready [⟨run, .boundary⟩] => some run
  | _ => none

/-- The report that the task ended with. -/
def report? : TaskState → Option RunReport
  | ended (.report r) => some r
  | _ => none

theorem eq_of_alone? (h : s.alone? = some run) : s = .ready [⟨run, .boundary⟩] := by
  unfold alone? at h
  split at h
  · cases h
    rfl
  · cases h

theorem eq_of_report? (h : s.report? = some r) : s = .ended (.report r) := by
  unfold report? at h
  split at h
  · cases h
    rfl
  · cases h

end TaskState

namespace Workbench

/-- In its turn the innermost run of the task leaves with a report: the task ends with it, or the step goes on that
started the run, and the session remembers it. -/
def Returns (w : Workbench) (t : Nat) (run : Run) (r : RunReport) : Prop :=
  ∃ point outer, w.task t = .ready (⟨run, point⟩ :: outer) ∧ (w.step t).task t = leftTask outer (.ok r) ∧
    (outer ≠ [] → ((w.step t).session run.session).lastRun = some r)

variable {w w' : Workbench} {t : Nat} {es es' : List Happening} {run : Run} {point : Point} {outer : List Frame}
  {r : RunReport}

theorem length_left_le (outer : List Frame) (result : Except Failure RunReport) :
    (left outer result).length ≤ outer.length := by
  unfold left
  split
  · exact Nat.le_refl _
  · exact Nat.zero_le _

theorem told_eq_ok {c : Callback} {r' : RunReport} (h : run.told c r' = .ok r) : r' = r := by
  unfold Run.told at h
  split at h
  · cases h
  · cases h
    rfl

/-- The report that is seen is the one that the run left with. -/
theorem result_of_leave (hn : run.session < w.sessions.made.length) {result : Except Failure RunReport}
    {g : Session → Session}
    (hchanges : Changes w t run.session (fun s => run.remember result (g s)) (leftTask outer result) w')
    (hinner : outer ≠ [] → run.isRemembered = true ∧ ∃ r', result = .ok r')
    (htask : w'.task t = leftTask outer (.ok r)) (hlast : outer ≠ [] → (w'.session run.session).lastRun = some r) :
    result = .ok r := by
  cases outer with
  | nil =>
      have hended : TaskState.ended (.ofResult result) = .ended (.report r) := hchanges.task.symm.trans htask
      cases result with
      | error f => cases hended
      | ok r' =>
          cases hended
          rfl
  | cons f outer =>
      obtain ⟨hremembered, r', rfl⟩ := hinner (List.cons_ne_nil _ _)
      have hkept := hlast (List.cons_ne_nil _ _)
      rw [hchanges.session hn, Run.remember, if_pos hremembered] at hkept
      cases hkept
      rfl

/-- What the session keeps of its run. -/
theorem session_of_leave (hn : run.session < w.sessions.made.length) {result : Except Failure RunReport}
    {g : Session → Session} {s : TaskState}
    (hchanges : Changes w t run.session (fun s => run.remember result (g s)) s w') :
    (w'.session run.session).machine = (g (w.session run.session)).machine ∧
      (w'.session run.session).highlights = (g (w.session run.session)).highlights := by
  obtain ⟨last, h⟩ := run.remember_eq result (g (w.session run.session))
  rw [hchanges.session hn, h]
  exact ⟨rfl, rfl⟩

/-- The three ways in which a run leaves with a report, and what its session looks like behind it. -/
inductive Leaves (w w' : Workbench) (run : Run) : Point → RunReport → Prop
  | stopped (hphase : (w.session run.session).machine.phase = .stopped)
      (hmachine : (w'.session run.session).machine.phase = .idle)
      (hhighlights : (w'.session run.session).highlights = .none) :
      Leaves w w' run .boundary (run.report .stopped .idle)
  | completed (hend : run.blocks.length ≤ run.next) (hactive : (w.session run.session).machine.isActive = true)
      (hmachine : (w'.session run.session).machine.phase = .idle)
      (hhighlights : (w'.session run.session).highlights = .none) :
      Leaves w w' run .boundary (run.report .completed .idle)
  | failed {pending : List Message} {f : Failure} {block : Block} (hblock : run.blocks[run.next]? = some block)
      (hmachine : (w'.session run.session).machine.phase = .failed)
      (hhighlights : (w'.session run.session).highlights = .after (.failed block.line)) :
      Leaves w w' run (.working pending (.finish (.error f)))
        ((run.addStep (run.stepReport block pending (some f))).report (.failed block.line f) .failed)

theorem Turn.leaves (h : Tenured w.sessions w.allStacks) (hp : Progress w es) (hturn : Turn w t w' es')
    (hw : w.task t = .ready (⟨run, point⟩ :: outer)) (htask : w'.task t = leftTask outer (.ok r))
    (hlast : outer ≠ [] → (w'.session run.session).lastRun = some r) :
    Leaves w w' run point r ∧ marks es' = [] := by
  obtain ⟨ht, hstack, hframes, htaken⟩ := h.stack (stack_of_ready hw)
  have hn := Sessions.lt_length_of_taken htaken
  have hinner : outer ≠ [] → run.IsInner := by
    intro houter
    have hinners := hp.inner t
    rw [stack_of_ready hw, List.dropLast_cons_of_ne_nil houter] at hinners
    exact (List.forall_mem_cons.1 hinners).1
  -- The run leaves, so this is none of the turns after which it goes on.
  have hgone : ∀ (more : List Frame) {f : Frame}, w'.allStacks = w.allStacks.set t (f :: (more ++ outer)) → False := by
    intro more f hstacks
    have hlength := congrArg List.length (stack_of_set ht hstacks)
    rw [stack, htask, frames_leftTask] at hlength
    have hle := length_left_le outer (.ok r)
    simp only [List.length_cons, List.length_append] at hlength
    omega
  have hheard : ∀ {g : Session → Session} {f : Frame},
      Changes w t run.session g (toldTask run outer (.ready (f :: outer))) w' → False := by
    intro g f hchanges
    unfold toldTask at hchanges
    cases hf : run.observer.failure? .progress with
    | none =>
        rw [hf] at hchanges
        exact hgone [] hchanges.allStacks
    | some fault =>
        rw [hf] at hchanges
        cases outer with
        | nil => cases hchanges.task.symm.trans htask
        | cons f outer =>
            rw [(hinner (List.cons_ne_nil _ _)).observer] at hf
            cases hf
  cases hturn with
  | rests hsessions hstacks =>
      refine (hgone [] (f := ⟨run, point⟩) ?_).elim
      rw [hstacks]
      conv_lhs => rw [← set_stack w t, stack_of_ready hw]
      rfl
  | stops hw' hphase hchanges =>
      cases hw.symm.trans hw'
      obtain ⟨hmachine, hhighlights⟩ := session_of_leave hn hchanges
      cases result_of_leave hn hchanges (fun houter => ⟨(hinner houter).remembered, _, rfl⟩) htask hlast
      exact ⟨.stopped hphase (congrArg Machine.phase hmachine) hhighlights, rfl⟩
  | completes hw' hend hactive hchanges =>
      cases hw.symm.trans hw'
      obtain ⟨hmachine, hhighlights⟩ := session_of_leave hn hchanges
      have hresult := result_of_leave hn hchanges
        (fun houter => ⟨(hinner houter).remembered, _, Run.told_of_inner (hinner houter) _ _⟩) htask hlast
      cases told_eq_ok hresult
      exact ⟨.completed (by simpa [Run.isAtEnd] using hend) hactive (congrArg Machine.phase hmachine) hhighlights, rfl⟩
  | fails hw' hblock hchanges =>
      cases hw.symm.trans hw'
      obtain ⟨hmachine, hhighlights⟩ := session_of_leave hn hchanges
      have hresult := result_of_leave hn hchanges
        (fun houter => ⟨(hinner houter).remembered, _, Run.told_of_inner (hinner houter) _ _⟩) htask hlast
      cases told_eq_ok hresult
      exact ⟨.failed hblock (congrArg Machine.phase hmachine) hhighlights, rfl⟩
  | records hw' hblock hplain hrunning hchanges =>
      cases hw.symm.trans hw'
      exact (hheard hchanges).elim
  | succeeds hw' hblock hchanges =>
      cases hw.symm.trans hw'
      exact (hheard hchanges).elim
  | begins hw' hblock hdirective hrunning hchanges =>
      cases hw.symm.trans hw'
      exact (hgone [] hchanges.allStacks).elim
  | works hw' hwork hchanges hhost =>
      cases hw.symm.trans hw'
      have hstacks := hchanges.allStacks
      exact (hgone [] hstacks).elim
  | waits hw' hchanges | refused hw' hchanges =>
      cases hw.symm.trans hw'
      exact (hgone [] hchanges.allStacks).elim
  | enters hw' hentered hsessions hstacks =>
      cases hw.symm.trans hw'
      exact (hgone [_] hstacks).elim
  | turnedAway hw' hentered hsessions hstacks | commands hw' hcarried hsessions hstacks =>
      cases hw.symm.trans hw'
      exact (hgone [] hstacks).elim

/-! What the run kept account of is what the verdict says. -/

theorem Leaves.fits (h : Leaves w w' run point r) (haccounts : Frame.Accounts ⟨run, point⟩) {is : List Nat}
    (his : is = List.range (Frame.reached ⟨run, point⟩)) :
    ∃ v : Verdict, v.Fits r run.blocks (w'.session run.session) is := by
  cases h with
  | stopped hphase hmachine hhighlights =>
      exact ⟨.stopped, rfl, rfl, rfl, rfl, haccounts.succeeded,
        ⟨run.next, haccounts.next_le, his, haccounts.indices, haccounts.isOf⟩, rfl, hmachine, hhighlights⟩
  | completed hend hactive hmachine hhighlights =>
      have hlength : run.next = run.blocks.length := Nat.le_antisymm haccounts.next_le hend
      refine ⟨.succeeded, rfl, rfl, rfl, rfl, haccounts.succeeded, ?_, rfl, hmachine, hhighlights⟩
      rw [← hlength]
      exact ⟨haccounts.next_le, his, haccounts.indices, haccounts.isOf⟩
  | @failed pending f block hblock hmachine hhighlights =>
      obtain ⟨b, hb, hdirective⟩ := haccounts.inStep Point.noConfusion
      cases hblock.symm.trans hb
      have hcovers : ((run.addStep (run.stepReport block pending (some f))).report
          (.failed block.line f) .failed).Covers run.blocks is (run.next + 1) :=
        ⟨(List.getElem?_eq_some_iff.1 hblock).1, his, haccounts.indices_step hblock hdirective _ _,
          haccounts.isOf_step hblock _ _⟩
      exact ⟨.failed, rfl, rfl, ⟨run.steps, run.stepReport block pending (some f), rfl, haccounts.succeeded, rfl, rfl,
        rfl, hcovers, hhighlights⟩, rfl, hmachine⟩

/-- Its observer hears of a run that succeeds. -/
theorem Leaves.announces (h : Leaves w (w.step t) run point r) (hw : w.task t = .ready (⟨run, point⟩ :: outer)) :
    Announces (if r.isSuccess && run.observer.listens then 1 else 0) (some t) w (w.step t) := by
  have hsilent : (∀ run, ¬IsCompleting w t run) → Announces 0 (some t) w (w.step t) := silent_step
  cases h with
  | stopped hphase hmachine hhighlights =>
      refine hsilent ?_
      rintro run' ⟨outer', hw', hfinish⟩
      cases hw.symm.trans hw'
      rw [boundary_of_stopped hphase] at hfinish
      cases hfinish
  | completed hend hactive hmachine hhighlights =>
      rw [step_boundary hw, stepBoundary, boundary_of_active (List.getElem?_eq_none hend) hactive]
      exact announces_complete hactive (Sessions.lt_length_of_taken (Machine.isTaken_of_isActive hactive))
  | failed hblock hmachine hhighlights =>
      refine hsilent ?_
      rintro run' ⟨outer', hw', hfinish⟩
      cases hw.symm.trans hw'

/-- A run that completes returns, if its callback does. -/
theorem returns_of_isCompleting (h : Tenured w.sessions w.allStacks) (hp : Progress w es)
    (hcompleting : IsCompleting w t run) (hcalm : run.observer.failure? .complete = none) :
    Returns w t run (run.report .completed .idle) := by
  obtain ⟨outer, hw, hfinish⟩ := hcompleting
  obtain ⟨-, -, -, htaken⟩ := h.stack (stack_of_ready hw)
  have hn := Sessions.lt_length_of_taken htaken
  have hend : run.blocks[run.next]? = none := by
    cases hblock : run.blocks[run.next]? with
    | none => rfl
    | some block =>
        simp only [Run.boundary, hblock] at hfinish
        split at hfinish
        · cases hfinish
        split at hfinish
        · cases hfinish
        split at hfinish
        · cases hfinish
        · cases hfinish
  have hactive : (w.session run.session).machine.isActive = true := by
    refine Machine.isActive_of_isTaken htaken fun hstop => ?_
    simp only [Run.boundary, hend, hstop, if_true] at hfinish
    cases hfinish
  have hchanges := step_completes hw hend hactive
  have htold : run.told .complete (run.report .completed .idle) = .ok (run.report .completed .idle) := by
    rw [Run.told, hcalm]
  rw [htold] at hchanges
  refine ⟨.boundary, outer, hw, hchanges.task, fun houter => ?_⟩
  have hinner := hp.inner t
  rw [stack_of_ready hw, List.dropLast_cons_of_ne_nil houter] at hinner
  rw [hchanges.session hn, Run.remember, if_pos (List.forall_mem_cons.1 hinner).1.remembered]

/-- Every run that returns a report has one verdict, which the report, the session, the blocks that the run began with
and its observer agree on; and an observer hears of no other end. -/
theorem following_verdict (registry : Registry) (settings : Settings) (client : Option Client) (host : Host)
    (ds : List HostMove) :
    let w := (new registry settings client host).following ds
    (∀ t run r, Returns w t run r →
      (∃! v : Verdict, v.Fits r run.blocks ((w.step t).session run.session)
        (trail run.session ((new registry settings client host).annals (ds ++ [.move (.turn t)])))) ∧
      (∃ fields, r.json = .obj fields ∧ fields.lookup ("steps_executed" : WideString) = some (.nat r.steps.length) ∧
        fields.lookup ("step_results" : WideString) = some (.list StepReport.json r.steps)) ∧
      (w.step t).log.count .complete = w.log.count .complete + if r.isSuccess && run.observer.listens then 1 else 0) ∧
    ∀ d, (w.serve d).log.count .complete ≠ w.log.count .complete →
      ∃ t run, d = .move (.turn t) ∧ IsCompleting w t run ∧
        (run.observer.failure? .complete = none → Returns w t run (run.report .completed .idle)) := by
  intro w
  have h := following_tenured (new_tenured registry settings client host) ds
  have hp := following_progress (new_tenured registry settings client host)
    (new_progress registry settings client host) ds
  rw [List.nil_append] at hp
  constructor
  · rintro t run r ⟨point, outer, hw, htask, hlast⟩
    obtain ⟨hleaves, hmarks⟩ := (h.turn t).leaves h hp hw htask hlast
    have hmem : ⟨run, point⟩ ∈ w.stack t := by
      rw [stack_of_ready hw]
      exact List.mem_cons_self
    have htrail : trail run.session ((new registry settings client host).annals (ds ++ [.move (.turn t)]))
        = List.range (Frame.reached ⟨run, point⟩) := by
      rw [annals_append, trail, List.foldl_append]
      change (w.turned t (w.step t) ++ []).foldl _ _ = _
      rw [List.append_nil, ← foldl_trail_marks, hmarks]
      exact hp.trails t _ hmem
    obtain ⟨v, hv⟩ := hleaves.fits (hp.accounts t _ hmem) htrail
    exact ⟨⟨v, hv, fun v' hv' => Verdict.Fits.unique hv' hv⟩, ⟨_, rfl, rfl, rfl⟩, (hleaves.announces hw).count⟩
  · intro d hd
    obtain ⟨t, run, hturn, hrun⟩ := isCompleting_of_count hd
    exact ⟨t, run, hturn, hrun, returns_of_isCompleting h hp hrun⟩

/-- A run whose observer hears that it is completed. -/
theorem held_verdict :
    let w := Held.bench.following [.move (.start { Held.order with observer := ⟨true, []⟩ }), .move (.turn 0),
      .move (.turn 0), .move (.release "gate"), .move (.turn 0)]
    ∃ run r, Returns w 0 run r ∧ r.isSuccess = true ∧ (w.step 0).log.count .complete = w.log.count .complete + 1 := by
  intro w
  have hstands : (w.task 0).alone?.any (·.observer.listens) = true := by decide +kernel
  have hends : ((w.step 0).task 0).report?.any (·.isSuccess) = true := by decide +kernel
  obtain ⟨run, halone, hlistens⟩ := (Option.any_eq_true _ _).1 hstands
  obtain ⟨r, hreport, hsuccess⟩ := (Option.any_eq_true _ _).1 hends
  have hw := TaskState.eq_of_alone? halone
  have hr := TaskState.eq_of_report? hreport
  have hreturns : Returns w 0 run r := ⟨.boundary, [], hw, hr, absurd rfl⟩
  obtain ⟨-, -, hcount⟩ := (following_verdict _ _ _ _ _).1 0 run r hreturns
  rw [hsuccess, hlistens] at hcount
  exact ⟨run, r, hreturns, hsuccess, hcount⟩

end Workbench

end Playbook
