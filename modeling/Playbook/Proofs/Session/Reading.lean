import Playbook.Proofs.Session.Ledger
/-!
# Moves around a run

`Reading` is what holds of a session whose run is going through its blocks and has not been stopped: the run stands at
some place, and whatever skill is at work keeps to the api. Every move either leaves the run where it is, together with
its conversations, or takes it to the next place and puts into the selected conversation what the ledger says.
-/

namespace Playbook

/-! ### Runs at their places -/

def Point.HasCourses : Point → Prop
  | .boundary => True
  | .working _ activity => activity.HasCourses
  | .awaiting _ next => ∀ answer, (next answer).HasCourses

namespace Frame

def place (f : Frame) : Place := if f.isInStep then .inside f.run.next else .before f.run.next

/-- The same run at the same place. -/
structure Follows (f f' : Frame) : Prop where
  run : f'.run = f.run
  isInStep : f'.isInStep = f.isInStep
  courses : f.point.HasCourses → f'.point.HasCourses

variable {f f' : Frame} {blocks : List Block}

theorem follows_refl (f : Frame) : f.Follows f := ⟨rfl, rfl, id⟩

theorem Follows.place (h : f.Follows f') : f'.place = f.place := by
  rw [Frame.place, Frame.place, h.run, h.isInStep]

/-- A pause or a resume does not take a run anywhere. -/
theorem along_place {es : List Happening} {n : Nat} (h : ∀ e ∈ es, e = .paused n ∨ e = .resumed n) :
    f.place.along blocks es = some f.place := by
  induction es with
  | nil => rfl
  | cons e es ih =>
      have hnext : f.place.next blocks e = some f.place := by
        unfold Frame.place
        rcases h e List.mem_cons_self with rfl | rfl
        · split <;> rfl
        · split <;> rfl
      rw [Place.along, List.foldlM_cons, hnext]
      exact ih fun e' he' => h e' (List.mem_cons_of_mem _ he')

end Frame

namespace Workbench

/-- Whoever has a run in the session goes on with it at the same place. -/
def Keeps (n : Nat) (allStacks allStacks' : List (List Frame)) : Prop :=
  ∀ f ∈ allStacks.flatten, f.run.session = n → ∃ f' ∈ allStacks'.flatten, f.Follows f'

/-- The run of the session through the blocks stands at the place, or has left. -/
inductive Seated (s : Sessions) (allStacks : List (List Frame)) (n : Nat) (blocks : List Block) : Place → Prop
  | here {f : Frame} (hf : f ∈ allStacks.flatten) (hsession : f.run.session = n) (hblocks : f.run.blocks = blocks)
      (hcourses : f.point.HasCourses) : Seated s allStacks n blocks f.place
  | gone (hfree : (s.get n).machine.isOwned = false) : Seated s allStacks n blocks .gone

/-- What is known of the session of a run. -/
structure Reading (w : Workbench) (n : Nat) (blocks : List Block) (p : Place) : Prop where
  consistent : Consistent w.sessions w.allStacks
  skills : w.registry.HasCourses
  hasSelected : (w.session n).contexts.HasSelected
  unstopped : (stage w.sessions w.allStacks n).IsUnstopped
  seated : Seated w.sessions w.allStacks n blocks p

/-- The run goes from place to place as the happenings have it, and what they add comes to the conversations. -/
structure Goes (w : Workbench) (n : Nat) (blocks : List Block) (p : Place) (es : List Happening) (s' : Sessions)
    (allStacks' : List (List Frame)) (p' : Place) : Prop where
  along : p.along blocks (ofSession n es) = some p'
  seated : Seated s' allStacks' n blocks p'
  gains : (w.session n).contexts.Gains ((ofSession n es).flatMap (·.adds w.registry blocks)) (s'.get n).contexts

variable {w w' : Workbench} {t n : Nat} {blocks : List Block} {p p' : Place} {es : List Happening}

/-! ### Runs that stay where they are -/

section Keeps

variable {allStacks : List (List Frame)} {frames outer : List Frame} {f f' : Frame}

theorem keeps_refl (n : Nat) (allStacks : List (List Frame)) : Keeps n allStacks allStacks :=
  fun f hf _ => ⟨f, hf, f.follows_refl⟩

theorem keeps_append (n : Nat) (allStacks : List (List Frame)) (frames : List Frame) :
    Keeps n allStacks (allStacks ++ [frames]) := by
  intro f hf _
  refine ⟨f, ?_, f.follows_refl⟩
  rw [List.flatten_append]
  exact List.mem_append_left _ hf

theorem keeps_set (ht : t < allStacks.length)
    (hkept : ∀ f ∈ allStacks.getD t [], f.run.session = n → ∃ f' ∈ frames, f.Follows f') :
    Keeps n allStacks (allStacks.set t frames) := by
  intro f hf hn
  rcases mem_flatten_set (t := t) hf frames with hmem | hmem
  · obtain ⟨f', hf', hfollows⟩ := hkept f hmem hn
    exact ⟨f', List.mem_flatten.2 ⟨frames, List.mem_set ht frames, hf'⟩, hfollows⟩
  · exact ⟨f, hmem, f.follows_refl⟩

theorem keeps_restack (ht : t < allStacks.length) (hstack : allStacks.getD t [] = f :: outer) (h : f.Follows f') :
    Keeps n allStacks (allStacks.set t (f' :: outer)) := by
  refine keeps_set ht fun g hg _ => ?_
  rw [hstack] at hg
  rcases List.mem_cons.1 hg with rfl | hg
  · exact ⟨f', List.mem_cons_self, h⟩
  · exact ⟨g, List.mem_cons_of_mem _ hg, g.follows_refl⟩

/-- What a run does is no concern of those outside of it. -/
theorem keeps_other (ht : t < allStacks.length) (hstack : allStacks.getD t [] = f :: outer) (hother : f.run.session ≠ n)
    (hkept : ∀ g ∈ outer, ∃ g' ∈ frames, g.Follows g') : Keeps n allStacks (allStacks.set t frames) := by
  refine keeps_set ht fun g hg hn => ?_
  rw [hstack] at hg
  rcases List.mem_cons.1 hg with rfl | hg
  · exact absurd hn hother
  · exact hkept g hg

theorem follows_left (hframes : IsStack (f :: outer)) (result : Except Failure RunReport) :
    ∀ g ∈ outer, ∃ g' ∈ left outer result, g.Follows g' :=
  fun _ => exists_left hframes result Frame.follows_refl fun _ _ _ => ⟨rfl, rfl, fun h => h _⟩

theorem follows_self (outer : List Frame) : ∀ g ∈ outer, ∃ g' ∈ f' :: outer, g.Follows g' :=
  fun g hg => ⟨g, List.mem_cons_of_mem _ hg, g.follows_refl⟩

end Keeps

/-! ### The session of a run -/

theorem eq_of_countP {α : Type} {q : α → Bool} {l : List α} {a b : α} (h : l.countP q = 1) (ha : a ∈ l)
    (hb : b ∈ l) (hqa : q a = true) (hqb : q b = true) : a = b := by
  rw [List.countP_eq_length_filter] at h
  obtain ⟨x, hx⟩ := List.length_eq_one_iff.1 h
  have ha' := List.mem_filter.2 ⟨ha, hqa⟩
  have hb' := List.mem_filter.2 ⟨hb, hqb⟩
  rw [hx, List.mem_singleton] at ha' hb'
  rw [ha', hb']

/-- The session has no other run. -/
theorem Reading.top (h : Reading w n blocks p) {frames : List Frame} (hframes : frames ∈ w.allStacks) {f : Frame}
    (hf : f ∈ frames) (hn : f.run.session = n) : f.run.blocks = blocks ∧ f.point.HasCourses ∧ p = f.place := by
  have howned := h.consistent.owned hframes hf
  rw [hn] at howned
  have hone := h.consistent.owners n
  rw [howned, if_pos rfl] at hone
  cases h.seated with
  | @here g hg hsession hblocks hcourses =>
      obtain rfl : g = f :=
        eq_of_countP hone hg (List.mem_flatten.2 ⟨frames, hframes, hf⟩) (by simpa using hsession) (by simpa using hn)
      exact ⟨hblocks, hcourses, rfl⟩
  | gone hfree => cases howned.symm.trans hfree

theorem Reading.owned (h : Reading w n blocks p) (hp : p ≠ .gone) : (w.session n).machine.isOwned = true := by
  cases h.seated with
  | here hf hsession hblocks hcourses =>
      obtain ⟨frames, hframes, hmem⟩ := List.mem_flatten.1 hf
      rw [← hsession]
      exact h.consistent.owned hframes hmem
  | gone hfree => exact absurd rfl hp

/-- Nothing happens to the run but that it is paused or resumed. -/
theorem Reading.stays (h : Reading w n blocks p) (hp : p ≠ .gone) {s' : Sessions} {allStacks' : List (List Frame)}
    (hcontexts : (s'.get n).contexts = (w.session n).contexts) (hkept : Keeps n w.allStacks allStacks')
    (hes : ∀ e ∈ ofSession n es, e = .paused n ∨ e = .resumed n) : Goes w n blocks p es s' allStacks' p := by
  have hadds : (ofSession n es).flatMap (·.adds w.registry blocks) = [] := by
    refine List.flatMap_eq_nil_iff.2 fun e he => ?_
    rcases hes e he with rfl | rfl
    · rfl
    · rfl
  have hgains : (w.session n).contexts.Gains ((ofSession n es).flatMap (·.adds w.registry blocks)) (s'.get n).contexts := by
    rw [hadds, hcontexts]
    exact Contexts.Reselected.refl.gains h.hasSelected
  cases h.seated with
  | @here f hf hsession hblocks hcourses =>
      obtain ⟨f', hf', hfollows⟩ := hkept f hf hsession
      refine ⟨f.along_place hes, ?_, hgains⟩
      rw [← hfollows.place]
      exact .here hf' (hfollows.run ▸ hsession) (hfollows.run ▸ hblocks) (hfollows.courses hcourses)
  | gone hfree => exact absurd rfl hp

/-! ### Turns -/

section Turns

variable {run run' : Run} {point point' : Point} {outer : List Frame} {g : Session → Session} {s : TaskState}

theorem pauses_of_others (h : ∀ e ∈ es, e.session ≠ n) : ∀ e ∈ ofSession n es, e = .paused n ∨ e = .resumed n := by
  rw [ofSession_of_others h]
  exact fun e he => absurd he List.not_mem_nil

/-- The turn of a run of another session. -/
theorem Reading.other (h : Reading w n blocks p) (hp : p ≠ .gone) (hw : w.task t = .ready (⟨run, point⟩ :: outer))
    (hchanges : Changes w t run.session g s w') (hother : run.session ≠ n)
    (hkept : ∀ f ∈ outer, ∃ f' ∈ s.frames, f.Follows f') (hes : ∀ e ∈ es, e.session = run.session) :
    ∃ p', Goes w n blocks p es w'.sessions w'.allStacks p' := by
  obtain ⟨ht, hstack, -, -⟩ := h.consistent.ready hw
  refine ⟨p, h.stays hp ?_ ?_ (pauses_of_others fun e he => hes e he ▸ hother)⟩
  · rw [hchanges.sessions, Sessions.get_update_other _ _ (Ne.symm hother)]
    rfl
  · rw [hchanges.allStacks]
    exact keeps_other ht hstack hother hkept

/-- The run goes on, at another place perhaps. -/
theorem Reading.goesOn (h : Reading w run.session blocks p) (hw : w.task t = .ready (⟨run, point⟩ :: outer))
    (hchanges : Changes w t run.session g s w') (hs : s.frames = ⟨run', point'⟩ :: outer)
    (hsession : run'.session = run.session) (hblocks : run'.blocks = run.blocks)
    (hcourses : point.HasCourses → point'.HasCourses) (hes : ∀ e ∈ es, e.session = run.session)
    (halong : (Frame.mk run point).place.along run.blocks es = some (Frame.mk run' point').place)
    (hgains : (w.session run.session).contexts.Gains (es.flatMap (·.adds w.registry run.blocks))
      (g (w.session run.session)).contexts) :
    ∃ p', Goes w run.session blocks p es w'.sessions w'.allStacks p' := by
  obtain ⟨ht, hstack, -, htaken⟩ := h.consistent.ready hw
  obtain ⟨rfl, hpoint, rfl⟩ := h.top (hstack ▸ getD_mem ht) List.mem_cons_self rfl
  rw [← ofSession_of_all hes] at halong hgains
  refine ⟨_, halong, ?_, ?_⟩
  · rw [hchanges.allStacks, hs]
    exact .here (List.mem_flatten.2 ⟨_, List.mem_set ht _, List.mem_cons_self⟩) hsession hblocks (hcourses hpoint)
  · rw [hchanges.sessions, Sessions.get_update_same _ _ (Sessions.lt_length_of_taken htaken)]
    exact hgains

/-- The run leaves. -/
theorem Reading.leaves (h : Reading w run.session blocks p) (hw : w.task t = .ready (⟨run, point⟩ :: outer))
    {result : Except Failure RunReport} (hchanges : Changes w t run.session (fun s => run.remember result (g s)) s w')
    (hfree : (g (w.session run.session)).machine.isOwned = false) (hes : ∀ e ∈ es, e.session = run.session)
    (halong : (Frame.mk run point).place.along run.blocks es = some .gone)
    (hgains : (w.session run.session).contexts.Gains (es.flatMap (·.adds w.registry run.blocks))
      (g (w.session run.session)).contexts) :
    ∃ p', Goes w run.session blocks p es w'.sessions w'.allStacks p' := by
  obtain ⟨ht, hstack, -, htaken⟩ := h.consistent.ready hw
  obtain ⟨rfl, hpoint, rfl⟩ := h.top (hstack ▸ getD_mem ht) List.mem_cons_self rfl
  have hafter : w'.sessions.get run.session = run.remember result (g (w.session run.session)) := by
    rw [hchanges.sessions, Sessions.get_update_same _ _ (Sessions.lt_length_of_taken htaken)]
    rfl
  rw [← ofSession_of_all hes] at halong hgains
  refine ⟨_, halong, .gone ?_, ?_⟩
  · rw [hafter, Run.machine_remember]
    exact hfree
  · rw [hafter, Run.contexts_remember]
    exact hgains

/-! What the run itself does -/

theorem Reading.completes (h : Reading w run.session blocks p) (hw : w.task t = .ready (⟨run, .boundary⟩ :: outer))
    (hend : run.isAtEnd = true)
    (hchanges : Changes w t run.session
      (fun s => run.remember (run.told .complete (run.report .completed .idle))
        { s with highlights := .none, machine := s.machine.released .idle })
      (leftTask outer (run.told .complete (run.report .completed .idle))) w') :
    ∃ p', Goes w run.session blocks p [.left run.session (w'.session run.session).lastRun] w'.sessions w'.allStacks p' := by
  obtain ⟨-, -, hframes, -⟩ := h.consistent.ready hw
  rw [told_of_calm (hframes.sound _ List.mem_cons_self).calm] at hchanges
  rw [h.consistent.lastRun_of_leave hw hchanges]
  refine h.leaves hw hchanges rfl (by simp [Happening.session]) (Place.along_singleton (Place.next_completed ?_ rfl)) ?_
  · simpa [Run.isAtEnd] using hend
  · exact Contexts.Reselected.refl.gains h.hasSelected

theorem Reading.fails {pending : List Message} {f : Failure} {block : Block} (h : Reading w run.session blocks p)
    (hw : w.task t = .ready (⟨run, .working pending (.finish (.error f))⟩ :: outer))
    (hblock : run.blocks[run.next]? = some block)
    (hchanges : Changes w t run.session
      (fun s => run.remember
        (run.told .error ((run.addStep (run.stepReport block pending (some f))).report (.failed block.line f) .failed))
        { s.record pending with
          highlights := .after (.failed block.line)
          machine := { s.machine.released .failed with mayPass := true } })
      (leftTask outer
        (run.told .error ((run.addStep (run.stepReport block pending (some f))).report (.failed block.line f) .failed)))
      w') :
    ∃ p', Goes w run.session blocks p
      [.ended run.session pending (.error f), .left run.session (w'.session run.session).lastRun] w'.sessions w'.allStacks
      p' := by
  obtain ⟨-, -, hframes, -⟩ := h.consistent.ready hw
  rw [told_of_calm (hframes.sound _ List.mem_cons_self).calm] at hchanges
  rw [h.consistent.lastRun_of_leave hw hchanges]
  have hraised : (Place.inside run.next).next run.blocks (.ended run.session pending (.error f)) =
      some (.failed run.next f) := rfl
  refine h.leaves hw hchanges rfl (by simp [Happening.session])
    ((Place.along_cons hraised).trans (Place.along_singleton (Place.next_failed hblock rfl))) ?_
  rw [List.flatMap_cons, List.flatMap_singleton, Happening.adds, Happening.adds, List.append_nil]
  exact Contexts.gains_extend h.hasSelected pending

theorem Reading.records {block : Block} (h : Reading w run.session blocks p)
    (hw : w.task t = .ready (⟨run, .boundary⟩ :: outer)) (hblock : run.blocks[run.next]? = some block)
    (hplain : block.isDirective = false)
    (hchanges : Changes w t run.session (·.record (plainMessages w.registry run.blocks run.next block))
      (toldTask run outer (.ready (⟨run.advance, .boundary⟩ :: outer))) w') :
    ∃ p', Goes w run.session blocks p [.began run.session run.next block] w'.sessions w'.allStacks p' := by
  obtain ⟨-, -, hframes, -⟩ := h.consistent.ready hw
  rw [toldTask_of_calm (hframes.sound _ List.mem_cons_self).calm, plainMessages_eq hblock] at hchanges
  refine h.goesOn hw hchanges rfl rfl rfl id (by simp [Happening.session]) (Place.along_singleton ?_) ?_
  · have hnext := Place.next_began (n := run.session) hblock
    rw [hplain] at hnext
    exact hnext
  · rw [List.flatMap_singleton]
    exact Contexts.gains_extend h.hasSelected _

theorem Reading.begins {block : Block} (h : Reading w run.session blocks p)
    (hw : w.task t = .ready (⟨run, .boundary⟩ :: outer)) (hblock : run.blocks[run.next]? = some block)
    (hdirective : block.isDirective = true)
    (hchanges : Changes w t run.session (fun s => { s with highlights := .after (.current block.line) })
      (.ready (⟨run, .working [] (w.registry.dispatch block.name block.arguments)⟩ :: outer)) w') :
    ∃ p', Goes w run.session blocks p [.began run.session run.next block] w'.sessions w'.allStacks p' := by
  refine h.goesOn hw hchanges rfl rfl rfl (fun _ => h.skills.dispatch _ _) (by simp [Happening.session])
    (Place.along_singleton ?_) ?_
  · have hnext := Place.next_began (n := run.session) hblock
    rw [hdirective] at hnext
    exact hnext
  · rw [List.flatMap_singleton, Happening.adds, contribution_of_isDirective hdirective]
    exact Contexts.Reselected.refl.gains h.hasSelected

theorem Reading.succeeds {pending messages : List Message} {block : Block} (h : Reading w run.session blocks p)
    (hw : w.task t = .ready (⟨run, .working pending (.finish (.ok messages))⟩ :: outer))
    (hchanges : Changes w t run.session (·.record (pending ++ messages))
      (toldTask run outer (.ready
        (⟨(run.addStep (run.stepReport block (pending ++ messages) none)).advance, .boundary⟩ :: outer))) w') :
    ∃ p', Goes w run.session blocks p [.ended run.session pending (.ok messages)] w'.sessions w'.allStacks p' := by
  obtain ⟨-, -, hframes, -⟩ := h.consistent.ready hw
  rw [toldTask_of_calm (hframes.sound _ List.mem_cons_self).calm] at hchanges
  refine h.goesOn hw hchanges rfl rfl rfl (fun _ => trivial) (by simp [Happening.session]) (Place.along_singleton rfl) ?_
  rw [List.flatMap_singleton]
  exact Contexts.gains_extend h.hasSelected _

theorem Reading.works {pending : List Message} {piece : Work Product}
    {next : Except Failure Product → Activity (List Message)} {result : Except Failure Product} {api : Api}
    (h : Reading w run.session blocks p) (hw : w.task t = .ready (⟨run, .working pending (.work piece next)⟩ :: outer))
    (hwork : piece.run (run.api (w.session run.session) w.host pending) = (result, api))
    (hchanges : Changes w t run.session (Run.sessionAfter · api)
      (.ready (⟨run, .working api.pending (next result)⟩ :: outer)) w') :
    ∃ p', Goes w run.session blocks p [] w'.sessions w'.allStacks p' := by
  obtain ⟨ht, hstack, -, -⟩ := h.consistent.ready hw
  obtain ⟨-, hcourses, -⟩ := h.top (hstack ▸ getD_mem ht) List.mem_cons_self rfl
  obtain ⟨ds, hcourse⟩ := hcourses.1 (run.api (w.session run.session) w.host pending)
  have hled := hcourse.led
  rw [hwork] at hled
  exact h.goesOn hw hchanges rfl rfl rfl (fun hpoint => hpoint.2 result) (fun e he => absurd he List.not_mem_nil) rfl
    (hled.contexts.gains h.hasSelected)

end Turns

/-! ### Requests and orders -/

theorem Opened.session_of_owned {id : String} {k : Nat} (h : Opened w id w' k)
    (howned : (w.session n).machine.isOwned = true) : w'.session n = w.session n := by
  cases h with
  | found hn hw => rw [hw]
  | made s hn hs hw hlast =>
      subst hw
      rw [session_eq, Sessions.get_add, if_neg]
      · rfl
      · rintro rfl
        rw [session_eq, Sessions.get_of_length_le _ (Nat.le_refl _)] at howned
        cases howned

/-- A command leaves a session that has a run what it was, but for its machine and its highlights. -/
theorem Carried.kept_of_owned {β : Type} (p : Session → β)
    (hp : ∀ s m highlights, p { s with machine := m, highlights := highlights } = p s) {c : Command}
    (h : Carried w c w' es) (howned : (w.session n).machine.isOwned = true) : p (w'.session n) = p (w.session n) := by
  cases h with
  | pause | resume | stop =>
      rw [session_eq, sessions_moved]
      exact Sessions.apply_get_update _ _ _ _ p fun s => hp s _ s.highlights
  | @reset id clear k m w' hk hm hsessions hstacks =>
      obtain ⟨-, hfree, -⟩ := Machine.reset_eq_ok.1 hm
      rw [session_eq, hsessions, Sessions.get_update_other]
      · rfl
      · rintro rfl
        cases hfree.symm.trans howned
  | close hk hsessions hstacks =>
      rw [session_eq, hsessions]
      exact Sessions.apply_get_update _ _ _ _ p fun s => hp s _ .none
  | closeUnknown | phase => rfl

theorem Carried.pauses {c : Command} (h : Carried w c w' es) (hstop : .stopped n ∉ es) :
    ∀ e ∈ ofSession n es, e = .paused n ∨ e = .resumed n := by
  intro e he
  obtain ⟨hmem, hsession⟩ := List.mem_filter.1 he
  have hstopped : ∀ k, e ≠ .stopped k := by
    rintro k rfl
    obtain rfl : k = n := beq_iff_eq.1 hsession
    exact hstop hmem
  cases h with
  | pause hk hm =>
      cases List.mem_singleton.1 hmem
      exact .inl (congrArg _ (beq_iff_eq.1 hsession))
  | resume hk hm =>
      cases List.mem_singleton.1 hmem
      exact .inr (congrArg _ (beq_iff_eq.1 hsession))
  | stop hk | close hk hsessions hstacks =>
      split at hmem
      · exact absurd (List.mem_singleton.1 hmem) (hstopped _)
      · cases hmem
  | reset | closeUnknown | phase => cases hmem

/-- An order leaves a session that has a run what it was, but for what was last parsed in it. -/
theorem Entered.of_owned {β : Type} (p : Session → β) (hp : ∀ s d, p { s with lastParse := d } = p s) {o : Order}
    {result : Except Failure Run} (h : Entered w o w' result) (howned : (w.session n).machine.isOwned = true) :
    p (w'.session n) = p (w.session n) ∧ ∀ run, result = .ok run → run.session ≠ n := by
  cases h with
  | unopened | busy => exact ⟨rfl, fun run hrun => by cases hrun⟩
  | turnedDown hopen hfree hsessions hstacks =>
      refine ⟨?_, fun run hrun => by cases hrun⟩
      rw [← hopen.session_of_owned howned, session_eq, hsessions]
      exact Sessions.apply_get_update _ _ _ _ p fun s => hp s _
  | @started w₀ w' k hopen hexecutable hfree hidle hsessions hstacks hregistry =>
      have hother : n ≠ k := by
        rintro rfl
        rw [← hopen.session_of_owned howned] at howned
        cases hfree.symm.trans howned
      refine ⟨?_, fun run hrun => ?_⟩
      · rw [← hopen.session_of_owned howned, session_eq, hsessions, Sessions.get_update_other _ _ hother]
        rfl
      · cases hrun
        exact hother.symm

/-! ### Moves -/

theorem Reading.turn (h : Reading w n blocks p) (hp : p ≠ .gone) (hturn : Turn w t w' es) (hstop : .stopped n ∉ es) :
    ∃ p', Goes w n blocks p es w'.sessions w'.allStacks p' := by
  have howned := h.owned hp
  -- The turns that leave every run at its place, in whatever session.
  have hstays : ∀ {top top' : Frame} {outer : List Frame}, w.task t = .ready (top :: outer) →
      w'.allStacks = w.allStacks.set t (top' :: outer) → top.Follows top' →
      (w'.session n).contexts = (w.session n).contexts → (∀ e ∈ ofSession n es, e = .paused n ∨ e = .resumed n) →
      ∃ p', Goes w n blocks p es w'.sessions w'.allStacks p' := by
    intro top top' outer hw hstacks hfollows hcontexts hes
    obtain ⟨ht, hstack, -, -⟩ := h.consistent.ready hw
    exact ⟨p, h.stays hp hcontexts (hstacks ▸ keeps_restack ht hstack hfollows) hes⟩
  have hnone : ∀ e ∈ ofSession n [], e = Happening.paused n ∨ e = .resumed n := fun e he => by cases he
  cases hturn with
  | rests hsessions hstacks =>
      exact ⟨p, h.stays hp (by rw [hsessions]; rfl) (hstacks ▸ keeps_refl n _) hnone⟩
  | @stops run outer hw hphase hchanges =>
      obtain ⟨ht, hstack, hframes, -⟩ := h.consistent.ready hw
      by_cases hmine : run.session = n
      · subst hmine
        have hstage := stage_of_mem h.consistent (hstack ▸ getD_mem ht) List.mem_cons_self
        have hunstopped := h.unstopped
        rw [hstage, Stage.IsUnstopped, ← session_eq, hphase] at hunstopped
        cases hunstopped
      · exact h.other hp hw hchanges hmine (frames_leftTask .. ▸ follows_left hframes _) (by simp [Happening.session])
  | @completes run outer hw hend hactive hchanges =>
      obtain ⟨-, -, hframes, -⟩ := h.consistent.ready hw
      by_cases hmine : run.session = n
      · subst hmine
        exact h.completes hw hend hchanges
      · exact h.other hp hw hchanges hmine (frames_leftTask .. ▸ follows_left hframes _) (by simp [Happening.session])
  | @fails run outer pending f block hw hblock hchanges =>
      obtain ⟨-, -, hframes, -⟩ := h.consistent.ready hw
      by_cases hmine : run.session = n
      · subst hmine
        exact h.fails hw hblock hchanges
      · exact h.other hp hw hchanges hmine (frames_leftTask .. ▸ follows_left hframes _) (by simp [Happening.session])
  | @records run outer block hw hblock hplain hrunning hchanges =>
      by_cases hmine : run.session = n
      · subst hmine
        exact h.records hw hblock hplain hchanges
      · obtain ⟨-, -, hframes, -⟩ := h.consistent.ready hw
        rw [toldTask_of_calm (hframes.sound _ List.mem_cons_self).calm] at hchanges
        exact h.other hp hw hchanges hmine (follows_self outer) (by simp [Happening.session])
  | @begins run outer block hw hblock hdirective hrunning hchanges =>
      by_cases hmine : run.session = n
      · subst hmine
        exact h.begins hw hblock hdirective hchanges
      · exact h.other hp hw hchanges hmine (follows_self outer) (by simp [Happening.session])
  | @succeeds run outer pending messages block hw hblock hchanges =>
      by_cases hmine : run.session = n
      · subst hmine
        exact h.succeeds hw hchanges
      · obtain ⟨-, -, hframes, -⟩ := h.consistent.ready hw
        rw [toldTask_of_calm (hframes.sound _ List.mem_cons_self).calm] at hchanges
        exact h.other hp hw hchanges hmine (follows_self outer) (by simp [Happening.session])
  | @works run outer pending piece next result api hw hwork hchanges hhost =>
      by_cases hmine : run.session = n
      · subst hmine
        have hgoes := h.works hw hwork hchanges
        exact hgoes
      · have hgoes := h.other hp hw hchanges hmine (follows_self outer) fun e he => absurd he List.not_mem_nil
        exact hgoes
  | waits hw hchanges =>
      refine hstays hw hchanges.allStacks ⟨rfl, rfl, id⟩ ?_ hnone
      rw [session_eq, hchanges.sessions, Sessions.update_id]
      rfl
  | refused hw hchanges =>
      refine hstays hw hchanges.allStacks ⟨rfl, rfl, fun hcourses => hcourses _⟩ ?_ hnone
      rw [session_eq, hchanges.sessions, Sessions.update_id]
      rfl
  | enters hw hentered hsessions hstacks =>
      obtain ⟨ht, hstack, -, -⟩ := h.consistent.ready hw
      obtain ⟨hcontexts, hother⟩ := hentered.of_owned Session.contexts (fun _ _ => rfl) howned
      refine ⟨p, h.stays hp (hsessions ▸ hcontexts) ?_ (pauses_of_others ?_)⟩
      · rw [hstacks]
        refine keeps_set ht fun f hf _ => ?_
        rw [hstack] at hf
        rcases List.mem_cons.1 hf with rfl | hf
        · exact ⟨_, List.mem_cons_of_mem _ List.mem_cons_self, rfl, rfl, id⟩
        · exact ⟨f, List.mem_cons_of_mem _ (List.mem_cons_of_mem _ hf), f.follows_refl⟩
      · intro e he
        rw [List.mem_singleton.1 he]
        exact hother _ rfl
  | turnedAway hw hentered hsessions hstacks =>
      refine hstays hw hstacks ⟨rfl, rfl, fun hcourses => hcourses _⟩ ?_ hnone
      rw [session_eq, hsessions]
      exact (hentered.of_owned Session.contexts (fun _ _ => rfl) howned).1
  | commands hw hcarried hsessions hstacks =>
      refine hstays hw hstacks ⟨rfl, rfl, fun hcourses => hcourses _⟩ ?_ (hcarried.pauses hstop)
      rw [session_eq, hsessions]
      exact hcarried.kept_of_owned Session.contexts (fun _ _ _ => rfl) howned

/-! ### Moves -/

theorem contexts_tryAct (w : Workbench) (k : Nat) (a : Action) :
    ((w.tryAct k a).session n).contexts = (w.session n).contexts := by
  unfold tryAct
  cases hact : w.act k a with
  | error f => rfl
  | ok result =>
      obtain ⟨m, -, hmoved⟩ := act_eq_ok hact
      dsimp only
      rw [hmoved, session_eq, sessions_moved]
      exact Sessions.apply_get_update _ _ _ _ Session.contexts fun _ => rfl

/-- A run that is cancelled says nothing. -/
theorem contexts_abandon (w : Workbench) (f : Frame) : ((w.abandon f).session n).contexts = (w.session n).contexts := by
  have hclear : ((w.highlight f.run.session .clear).session n).contexts = (w.session n).contexts := by
    rw [session_eq, sessions_highlight]
    exact Sessions.apply_get_update _ _ _ _ Session.contexts fun _ => rfl
  have hhalt : (((w.highlight f.run.session .clear).halt f.run.session).session n).contexts = (w.session n).contexts := by
    unfold halt
    split
    · exact (contexts_tryAct _ _ _).trans hclear
    · exact hclear
  unfold abandon
  dsimp only
  split
  · exact (contexts_tryAct _ _ _).trans hhalt
  · exact hhalt

theorem contexts_abandon_all (frames : List Frame) (w : Workbench) :
    ((frames.foldl abandon w).session n).contexts = (w.session n).contexts := by
  induction frames generalizing w with
  | nil => rfl
  | cons f frames ih => exact (ih _).trans (contexts_abandon w f)

theorem Reading.cancel (h : Reading w n blocks p) (hp : p ≠ .gone) (hleft : .left n none ∉ w.happenings (.cancel t)) :
    ∃ p', Goes w n blocks p (w.happenings (.cancel t)) (w.cancel t).1.sessions (w.cancel t).1.allStacks p' := by
  have hothers : ∀ f ∈ w.stack t, f.run.session ≠ n := by
    rintro f hf rfl
    exact hleft (List.mem_map_of_mem hf)
  have hes : ∀ e ∈ w.happenings (.cancel t), e.session ≠ n := by
    intro e he
    obtain ⟨f, hf, rfl⟩ := List.mem_map.1 he
    exact hothers f hf
  rcases cancel_eq w t with ⟨-, hw⟩ | ⟨ht, v, hsessions, hstacks, hw⟩
  · rw [hw]
    exact ⟨p, h.stays hp rfl (keeps_refl n _) (pauses_of_others hes)⟩
  · have hconsistent := h.consistent
    rw [← set_stack w t, ← hsessions] at hconsistent
    have hrest := (abandon_all ht hconsistent).2
    rw [hw]
    refine ⟨p, h.stays hp ?_ ?_ (pauses_of_others hes)⟩
    · rw [← session_eq, contexts_abandon_all, session_eq, hsessions]
      rfl
    · rw [hrest, hstacks]
      exact keeps_set ht fun f hf hn => absurd hn (hothers f (stack_eq w t ▸ hf))

theorem Reading.start {o : Order} (h : Reading w n blocks p) (hp : p ≠ .gone) :
    ∃ p', Goes w n blocks p (w.admitted o) (w.move (.start o)).sessions (w.move (.start o)).allStacks p' := by
  have howned := h.owned hp
  rcases start_cases w o with ⟨f, w₁, hentered, hnone, hsessions, hstacks⟩ | ⟨run, w₁, hentered, hone, hsessions, hstacks⟩
  · rw [hnone, hsessions, hstacks]
    have hsame := (hentered.of_owned Session.contexts (fun _ _ => rfl) howned).1
    exact ⟨p, h.stays hp hsame (keeps_append n _ _) fun e he => by cases he⟩
  · obtain ⟨hcontexts, hother⟩ := hentered.of_owned Session.contexts (fun _ _ => rfl) howned
    rw [hone, hsessions, hstacks]
    refine ⟨p, h.stays hp hcontexts (keeps_append n _ _) (pauses_of_others fun e he => ?_)⟩
    rw [List.mem_singleton.1 he]
    exact hother run rfl

theorem Reading.move {m : Move} (h : Reading w n blocks p) (hp : p ≠ .gone) (hstop : .stopped n ∉ w.happenings m)
    (hleft : .left n none ∉ w.happenings m) :
    ∃ p', Goes w n blocks p (w.happenings m) (w.move m).sessions (w.move m).allStacks p' := by
  have howned := h.owned hp
  have hnone : ∀ e ∈ ofSession n [], e = Happening.paused n ∨ e = .resumed n := fun e he => by cases he
  cases m with
  | turn t => exact h.turn hp (h.consistent.turn t) hstop
  | rouse =>
      obtain ⟨hsessions, hstacks⟩ := move_rouse w
      exact ⟨p, h.stays hp (by rw [hsessions]; rfl) (hstacks ▸ keeps_refl n _) hnone⟩
  | request c =>
      rcases move_request w c with hcarried | ⟨hw, hsame⟩
      · have hsame := hcarried.kept_of_owned Session.contexts (fun _ _ _ => rfl) howned
        exact ⟨p, h.stays hp hsame (hcarried.allStacks ▸ keeps_refl n _) (hcarried.pauses hstop)⟩
      · rw [hw, happenings, hsame]
        exact ⟨p, h.stays hp rfl (keeps_refl n _) hnone⟩
  | start o => exact h.start hp
  | openSession id =>
      rcases move_openSession w id with ⟨k, hopened⟩ | hw
      · exact ⟨p, h.stays hp (congrArg _ (hopened.session_of_owned howned)) (hopened.allStacks ▸ keeps_refl n _) hnone⟩
      · rw [hw]
        exact ⟨p, h.stays hp rfl (keeps_refl n _) hnone⟩
  | parse id text =>
      rcases move_parse w id text with ⟨w₀, k, hopened, hstacks, hsessions⟩ | hw
      · refine ⟨p, h.stays hp ?_ (hstacks ▸ keeps_refl n _) hnone⟩
        rw [hsessions, ← hopened.session_of_owned howned]
        exact Sessions.apply_get_update _ _ _ _ Session.contexts fun _ => rfl
      · rw [hw]
        exact ⟨p, h.stays hp rfl (keeps_refl n _) hnone⟩
  | release gate =>
      obtain ⟨hsessions, hstacks⟩ := move_release w gate
      exact ⟨p, h.stays hp (by rw [hsessions]; rfl) (hstacks ▸ keeps_refl n _) hnone⟩
  | cancel t => exact h.cancel hp hleft

end Workbench

end Playbook
