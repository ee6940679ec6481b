import Playbook.Proofs.Session.Stage
/-!
# Runs heed requests at boundaries only

A paused run begins with no block until it is resumed, a stopped run with none at all; yet the step in progress
goes on to its own end, and what it queued and returned is recorded. That much is true of every path of stages, so
it is true of every history, whoever gives the commands and in whatever order.
-/

namespace Playbook

/-! ### What paths exclude -/

namespace Stage

/-- No block can begin. -/
inductive IsHeld : Stage → Prop
  | paused {inStep : Bool} : IsHeld (.going .paused inStep)
  | stopped {inStep : Bool} : IsHeld (.going .stopped inStep)
  | failing {f : Failure} : IsHeld (.failing f)

variable {n i : Nat} {b : Block} {st st' : Stage} {es pre mid post : List Happening} {e : Happening}

theorem IsHeld.step (hst : st.IsHeld) (h : Step n st e st') (hresumed : e ≠ .resumed n) (hleft : ∀ r, e ≠ .left n r) :
    st'.IsHeld := by
  cases h with
  | other he => exact hst
  | started => cases hst
  | began hb => cases hst
  | paused hp => exact .paused
  | resumed => exact absurd rfl hresumed
  | stopped hp => exact .stopped
  | ended =>
      cases hst with
      | paused => exact .paused
      | stopped => exact .stopped
  | raised => exact .failing
  | leftStopped | leftCompleted | leftFailed | cancelled => exact absurd rfl (hleft _)

/-- A run stays held until it is resumed or leaves. -/
theorem IsHeld.path (hst : st.IsHeld) (h : Path n st es st') (hresumed : .resumed n ∉ es)
    (hleft : ∀ r, .left n r ∉ es) : st'.IsHeld := by
  induction h with
  | nil => exact hst
  | cons hstep hes ih =>
      rw [List.mem_cons, not_or] at hresumed
      refine ih (hst.step hstep (fun he => hresumed.1 he.symm) fun r he => hleft r ?_) hresumed.2 fun r hr => hleft r ?_
      · rw [he]
        exact List.mem_cons_self
      · exact List.mem_cons_of_mem _ hr

theorem IsHeld.not_began (hst : st.IsHeld) : ¬Step n st (.began n i b) st' := by
  intro h
  cases h with
  | other he => exact he rfl
  | began hb => cases hst

/-- Two happenings on a path, and the path between them. -/
theorem Path.between {e' : Happening} (h : Path n st (pre ++ e :: mid ++ e' :: post) st') :
    ∃ s₀ s₁ s₂ s₃, Step n s₀ e s₁ ∧ Path n s₁ mid s₂ ∧ Step n s₂ e' s₃ := by
  obtain ⟨s₂, h, hright⟩ := h.split
  obtain ⟨s₀, -, hmid⟩ := h.split
  cases hmid with
  | cons hfirst hmid =>
      cases hright with
      | cons hsecond hpost => exact ⟨s₀, _, s₂, _, hfirst, hmid, hsecond⟩

/-- After a pause no block begins before the run is resumed. -/
theorem Path.paused_began (h : Path n st (pre ++ .paused n :: mid ++ .began n i b :: post) st') :
    .resumed n ∈ mid ∨ ∃ r, .left n r ∈ mid := by
  obtain ⟨s₀, s₁, s₂, s₃, hpaused, hmid, hbegan⟩ := h.between
  have hheld : s₁.IsHeld := by
    cases hpaused with
    | other he => exact absurd rfl he
    | paused hp => exact .paused
  by_contra hnone
  rw [not_or, not_exists] at hnone
  exact (hheld.path hmid hnone.1 hnone.2).not_began hbegan

/-! ### Stopped runs -/

/-- A run that is about to leave after a failed step does nothing else. -/
theorem Path.of_failing {f : Failure} (h : Path n (.failing f) es st') (hleft : ∀ r, .left n r ∉ es) :
    st' = .failing f := by
  generalize hst : Stage.failing f = st at h
  induction h with
  | nil => rfl
  | cons hstep hes ih =>
      subst hst
      cases hstep with
      | other he => exact ih (fun r hr => hleft r (List.mem_cons_of_mem _ hr)) rfl
      | leftFailed => exact absurd List.mem_cons_self (hleft _)

/-- A stopped run stays stopped until it leaves, unless its step fails. -/
theorem Path.of_stopped {inStep : Bool} (h : Path n (.going .stopped inStep) es st') (hleft : ∀ r, .left n r ∉ es) :
    (∃ inStep', st' = .going .stopped inStep') ∨
      ∃ f queued, st' = .failing f ∧ .ended n queued (.error f) ∈ es := by
  generalize hst : Stage.going .stopped inStep = st at h
  induction h generalizing inStep with
  | nil => exact .inl ⟨_, hst.symm⟩
  | @cons _ s₁ s₂ e es hstep hes ih =>
      subst hst
      have hrest : ∀ r, .left n r ∉ es := fun r hr => hleft r (List.mem_cons_of_mem _ hr)
      have hgoing : ∀ inStep', s₁ = .going .stopped inStep' → (∃ inStep', s₂ = .going .stopped inStep') ∨
          ∃ f queued, s₂ = .failing f ∧ .ended n queued (.error f) ∈ e :: es := by
        intro inStep' hs
        rcases ih hrest hs.symm with hs | ⟨f, queued, hs, hmem⟩
        · exact .inl hs
        · exact .inr ⟨f, queued, hs, List.mem_cons_of_mem _ hmem⟩
      cases hstep with
      | other he => exact hgoing _ rfl
      | paused hp => cases hp
      | stopped hp => cases hp
      | ended => exact hgoing _ rfl
      | @raised _ queued f => exact .inr ⟨f, queued, hes.of_failing hrest, List.mem_cons_self⟩
      | leftStopped | leftCompleted | cancelled => exact absurd List.mem_cons_self (hleft _)

theorem Step.of_stopped (h : Step n st (.stopped n) st') : ∃ inStep, st' = .going .stopped inStep := by
  cases h with
  | other he => exact absurd rfl he
  | stopped hp => exact ⟨_, rfl⟩

/-- After a stop no block of the run begins. -/
theorem Path.stopped_began (h : Path n st (pre ++ .stopped n :: mid ++ .began n i b :: post) st') :
    ∃ r, .left n r ∈ mid := by
  obtain ⟨s₀, s₁, s₂, s₃, hstopped, hmid, hbegan⟩ := h.between
  obtain ⟨inStep, rfl⟩ := hstopped.of_stopped
  by_contra hnone
  rw [not_exists] at hnone
  rcases hmid.of_stopped hnone with ⟨inStep', rfl⟩ | ⟨f, queued, rfl, -⟩
  · exact IsHeld.stopped.not_began hbegan
  · exact IsHeld.failing.not_began hbegan

/-- How a run ends that was stopped. -/
inductive EndsStopped (n : Nat) (mid : List Happening) : Option RunReport → Prop
  | stopped {r : RunReport} (hending : r.ending = .stopped) (hphase : r.phase = .idle) : EndsStopped n mid (some r)
  /-- The step in progress failed after the stop. -/
  | failed {r : RunReport} {line : Nat} {f : Failure} {queued : List Message} (hending : r.ending = .failed line f)
      (hphase : r.phase = .failed) (hended : .ended n queued (.error f) ∈ mid) : EndsStopped n mid (some r)
  | cancelled : EndsStopped n mid none

theorem Path.stopped_left {r : Option RunReport}
    (h : Path n st (pre ++ .stopped n :: mid ++ .left n r :: post) st') (hfirst : ∀ r, .left n r ∉ mid) :
    EndsStopped n mid r := by
  obtain ⟨s₀, s₁, s₂, s₃, hstopped, hmid, hleft⟩ := h.between
  obtain ⟨inStep, rfl⟩ := hstopped.of_stopped
  rcases hmid.of_stopped hfirst with ⟨inStep', rfl⟩ | ⟨f, queued, rfl, hended⟩
  · cases hleft with
    | other he => exact absurd rfl he
    | leftStopped hending hphase => exact .stopped hending hphase
    | leftCompleted hp => cases hp
    | cancelled => exact .cancelled
  · cases hleft with
    | other he => exact absurd rfl he
    | leftFailed hending hphase => exact .failed hending hphase hended

/-! ### Steps in progress -/

/-- A run in a step stays in it until the step is over, whatever is requested. -/
theorem Path.of_inStep {p : Phase} (h : Path n (.going p true) es st') (hleft : .left n none ∉ es) :
    (∃ p', st' = .going p' true) ∨ ∃ queued result, .ended n queued result ∈ es := by
  generalize hst : Stage.going p true = st at h
  induction h generalizing p with
  | nil => exact .inl ⟨_, hst.symm⟩
  | @cons _ s₁ s₂ e es hstep hes ih =>
      subst hst
      have hrest : .left n none ∉ es := fun hmem => hleft (List.mem_cons_of_mem _ hmem)
      have hgoing : ∀ p', s₁ = .going p' true → (∃ p', s₂ = .going p' true) ∨
          ∃ queued result, .ended n queued result ∈ e :: es := by
        intro p' hs
        rcases ih hrest hs.symm with hs | ⟨queued, result, hmem⟩
        · exact .inl hs
        · exact .inr ⟨queued, result, List.mem_cons_of_mem _ hmem⟩
      cases hstep with
      | other he => exact hgoing _ rfl
      | paused hp => exact hgoing _ rfl
      | resumed => exact hgoing _ rfl
      | stopped hp => exact hgoing _ rfl
      | ended => exact .inr ⟨_, _, List.mem_cons_self⟩
      | raised => exact .inr ⟨_, _, List.mem_cons_self⟩
      | cancelled => exact absurd List.mem_cons_self hleft

/-- What a run can only do when no step of it is in progress. -/
inductive IsNext (n : Nat) : Happening → Prop
  | began {i : Nat} {b : Block} : IsNext n (.began n i b)
  | left {r : RunReport} : IsNext n (.left n (some r))

theorem Path.began_next (h : Path n st (pre ++ .began n i b :: mid ++ e :: post) st') (hb : b.isDirective = true)
    (he : IsNext n e) (hleft : .left n none ∉ mid) : ∃ queued result, .ended n queued result ∈ mid := by
  obtain ⟨s₀, s₁, s₂, s₃, hbegan, hmid, hnext⟩ := h.between
  have hinStep : s₁ = .going .running true := by
    cases hbegan with
    | other he => exact absurd rfl he
    | began hb' => rw [← hb', hb]
  subst hinStep
  rcases hmid.of_inStep hleft with ⟨p', rfl⟩ | hended
  · cases he with
    | began =>
        cases hnext with
        | other he => exact absurd rfl he
    | left =>
        cases hnext with
        | other he => exact absurd rfl he
  · exact hended

end Stage

/-! ### What a run does by itself -/

/-- What no request can bring about. -/
inductive Happening.IsOwn : Happening → Prop
  | began {n i : Nat} {b : Block} : IsOwn (.began n i b)
  | ended {n : Nat} {queued : List Message} {result : Except Failure (List Message)} : IsOwn (.ended n queued result)
  | left {n : Nat} {r : Option RunReport} : IsOwn (.left n r)

/-- The messages of a step besides those that it queued. -/
def returned : Except Failure (List Message) → List Message
  | .ok messages => messages
  | .error _ => []

/-- How a step in progress goes on: along its own activity, and only its work changes what it has queued. -/
inductive Point.GoesOn : Point → Point → Prop
  | stays {p : Point} : GoesOn p p
  | works {pending : List Message} {piece : Work Product} {next : Except Failure Product → Activity (List Message)}
      {result : Except Failure Product} {before after : Api} (hpending : before.pending = pending)
      (hwork : piece.run before = (result, after)) :
      GoesOn (.working pending (.work piece next)) (.working after.pending (next result))
  | passes {pending : List Message} {gate : String} {next : Activity (List Message)} :
      GoesOn (.working pending (.wait gate next)) (.working pending next)
  | learns {pending : List Message} {c : Command} {next : Except Failure Answer → Activity (List Message)}
      {answer : Except Failure Answer} : GoesOn (.working pending (.command c next)) (.working pending (next answer))
  | awaits {pending : List Message} {name text : String} {next : Except Failure Answer → Activity (List Message)} :
      GoesOn (.working pending (.command (.run name text) next)) (.awaiting pending next)
  | returns {pending : List Message} {next : Except Failure Answer → Activity (List Message)}
      {answer : Except Failure Answer} : GoesOn (.awaiting pending next) (.working pending (next answer))

namespace Workbench

variable {w w' : Workbench} {t n i : Nat} {b : Block} {e : Happening} {es : List Happening}

theorem Carried.not_isOwn {c : Command} (hc : Carried w c w' es) (hmem : e ∈ es) : ¬e.IsOwn := by
  cases hc with
  | pause | resume =>
      cases List.mem_singleton.1 hmem
      exact nofun
  | stop | close =>
      split at hmem
      · cases List.mem_singleton.1 hmem
        exact nofun
      · cases hmem
  | reset | closeUnknown | phase => cases hmem

theorem not_isOwn_granted {c : Command} (hmem : e ∈ w.granted c) : ¬e.IsOwn := by
  cases hcarry : w.carryOut c with
  | error f =>
      rw [granted_of_error hcarry] at hmem
      cases hmem
  | ok result => exact (carried_of_ok hcarry).not_isOwn hmem

/-- It comes of a turn, or of a cancellation. -/
theorem turn_of_isOwn {m : Move} (hmem : e ∈ w.happenings m) (he : e.IsOwn) :
    (∃ t, m = .turn t ∧ e ∈ w.turned t (w.step t)) ∨ ∃ t n, m = .cancel t ∧ e = .left n none := by
  cases m with
  | turn t => exact .inl ⟨t, rfl, hmem⟩
  | rouse | openSession | parse | release => cases hmem
  | request c => exact absurd he (not_isOwn_granted hmem)
  | start o =>
      rcases start_cases w o with ⟨f, w₁, -, hnone, -⟩ | ⟨run, w₁, -, hone, -⟩
      · rw [happenings, hnone] at hmem
        cases hmem
      · rw [happenings, hone, List.mem_singleton] at hmem
        rw [hmem] at he
        cases he
  | cancel t =>
      obtain ⟨f, -, rfl⟩ := List.mem_map.1 hmem
      exact .inr ⟨t, _, rfl, rfl⟩

/-- A block begins in a session that is running. -/
theorem Turn.running (hturn : Turn w t w' es) (hmem : .began n i b ∈ es) : (w.session n).machine.phase = .running := by
  cases hturn with
  | records hw hblock hplain hrunning h =>
      cases List.mem_singleton.1 hmem
      exact hrunning
  | begins hw hblock hdirective hrunning h =>
      cases List.mem_singleton.1 hmem
      exact hrunning
  | commands hw hcarried => exact absurd .began (hcarried.not_isOwn hmem)
  | rests | works | waits | turnedAway | refused => cases hmem
  | stops | completes | succeeds | enters => cases List.mem_singleton.1 hmem
  | fails => simp at hmem

/-- When a step is over, its messages are recorded, those that it queued in any case. -/
theorem Turn.recorded {queued : List Message} {result : Except Failure (List Message)}
    (h : Consistent w.sessions w.allStacks) (hturn : Turn w t w' es) (hmem : .ended n queued result ∈ es) :
    (w'.session n).contexts = (w.session n).contexts.extend (queued ++ returned result) := by
  cases hturn with
  | succeeds hw hblock hchanges =>
      cases List.mem_singleton.1 hmem
      obtain ⟨-, -, -, htaken⟩ := h.ready hw
      rw [session_eq, hchanges.sessions, Sessions.get_update_same _ _ (Sessions.lt_length_of_taken htaken)]
      rfl
  | fails hw hblock hchanges =>
      rcases List.mem_cons.1 hmem with hmem | hmem
      · cases hmem
        obtain ⟨-, -, -, htaken⟩ := h.ready hw
        rw [session_eq, hchanges.sessions, Sessions.get_update_same _ _ (Sessions.lt_length_of_taken htaken),
          Run.contexts_remember, returned, List.append_nil]
        rfl
      · cases List.mem_singleton.1 hmem
  | commands hw hcarried => exact absurd .ended (hcarried.not_isOwn hmem)
  | rests | works | waits | turnedAway | refused => cases hmem
  | stops | completes | records | begins | enters => cases List.mem_singleton.1 hmem

/-- A run that leaves in its turn reports. -/
theorem Turn.reported (h : Consistent w.sessions w.allStacks) (hturn : Turn w t w' es) : .left n none ∉ es := by
  intro hmem
  cases hturn with
  | stops hw hphase hchanges =>
      rw [h.lastRun_of_leave hw hchanges] at hmem
      cases List.mem_singleton.1 hmem
  | completes hw hend hactive hchanges =>
      obtain ⟨-, -, hframes, -⟩ := h.ready hw
      rw [told_of_calm (hframes.sound _ List.mem_cons_self).calm] at hchanges
      rw [h.lastRun_of_leave hw hchanges] at hmem
      cases List.mem_singleton.1 hmem
  | fails hw hblock hchanges =>
      obtain ⟨-, -, hframes, -⟩ := h.ready hw
      rw [told_of_calm (hframes.sound _ List.mem_cons_self).calm] at hchanges
      rw [h.lastRun_of_leave hw hchanges] at hmem
      rcases List.mem_cons.1 hmem with hmem | hmem
      · cases hmem
      · cases List.mem_singleton.1 hmem
  | commands hw hcarried => exact absurd .left (hcarried.not_isOwn hmem)
  | rests | works | waits | turnedAway | refused => cases hmem
  | records | begins | succeeds | enters => cases List.mem_singleton.1 hmem

/-! ### Steps in flight -/

/-- The step that a run is in goes on in these runs, or it came to its end. -/
def InFlight (f : Frame) (frames : List Frame) (es : List Happening) : Prop :=
  (∃ f' ∈ frames, f'.run = f.run ∧ f.point.GoesOn f'.point) ∨
    ∃ queued result, f.point = .working queued (.finish result) ∧ .ended f.run.session queued result ∈ es

theorem inFlight_of_mem {f : Frame} {frames : List Frame} (hf : f ∈ frames) : InFlight f frames es :=
  .inl ⟨f, hf, rfl, .stays⟩

/-- The run that started the one that leaves learns of it. -/
theorem inFlight_left {f g : Frame} {outer : List Frame} (hframes : IsStack (g :: outer))
    (result : Except Failure RunReport) (hf : f ∈ outer) : InFlight f (left outer result) es := by
  rcases outer with _ | ⟨⟨run, point⟩, outer⟩
  · cases hf
  · obtain ⟨pending, next, rfl⟩ : Frame.IsAwaiting ⟨run, point⟩ := hframes.outer _ List.mem_cons_self
    rcases List.mem_cons.1 hf with rfl | hf
    · exact .inl ⟨_, List.mem_cons_self, rfl, .returns⟩
    · exact inFlight_of_mem (List.mem_cons_of_mem _ hf)

theorem stack_of_set {frames : List Frame} (ht : t < w.allStacks.length) (h : w'.allStacks = w.allStacks.set t frames) :
    w'.stack t = frames := by
  rw [stack_eq, h, List.getD_eq_getElem?_getD, List.getElem?_set_self ht, Option.getD_some]

theorem stack_of_set_other {frames : List Frame} {u : Nat} (hu : u ≠ t) (h : w'.allStacks = w.allStacks.set t frames) :
    w'.stack u = w.stack u := by
  rw [stack_eq, stack_eq, h, List.getD_eq_getElem?_getD, List.getElem?_set_ne (Ne.symm hu),
    ← List.getD_eq_getElem?_getD]

section Innermost

variable {run : Run} {point point' : Point} {outer frames : List Frame} {f : Frame}

/-- A turn of the innermost run, by what becomes of that run and of those that wait for it. -/
theorem inFlight_turn (h : Consistent w.sessions w.allStacks) (hw : w.task t = .ready (⟨run, point⟩ :: outer))
    (hstacks : w'.allStacks = w.allStacks.set t frames) (hf : f ∈ w.stack t)
    (htop : f = ⟨run, point⟩ → InFlight f frames es) (houter : f ∈ outer → InFlight f frames es) :
    InFlight f (w'.stack t) es := by
  obtain ⟨ht, -, -, -⟩ := h.ready hw
  rw [stack_of_ready hw] at hf
  rw [stack_of_set ht hstacks]
  exact (List.mem_cons.1 hf).elim htop houter

/-- The innermost run takes a step within its step. -/
theorem inFlight_inStep (h : Consistent w.sessions w.allStacks) (hw : w.task t = .ready (⟨run, point⟩ :: outer))
    (hstacks : w'.allStacks = w.allStacks.set t (⟨run, point'⟩ :: outer)) (hf : f ∈ w.stack t)
    (hgoes : point.GoesOn point') : InFlight f (w'.stack t) es := by
  refine inFlight_turn h hw hstacks hf ?_ fun hf => inFlight_of_mem (List.mem_cons_of_mem _ hf)
  rintro rfl
  exact .inl ⟨_, List.mem_cons_self, rfl, hgoes⟩

/-- The innermost run leaves. -/
theorem inFlight_leave (h : Consistent w.sessions w.allStacks) (hw : w.task t = .ready (⟨run, point⟩ :: outer))
    {result : Except Failure RunReport} (hstacks : w'.allStacks = w.allStacks.set t (leftTask outer result).frames)
    (hf : f ∈ w.stack t) (htop : f = ⟨run, point⟩ → InFlight f (left outer result) es) :
    InFlight f (w'.stack t) es := by
  obtain ⟨-, -, hframes, -⟩ := h.ready hw
  rw [frames_leftTask] at hstacks
  exact inFlight_turn h hw hstacks hf htop (inFlight_left hframes result)

end Innermost

theorem Turn.inFlight (h : Consistent w.sessions w.allStacks) (hturn : Turn w t w' es) {f : Frame} (hf : f ∈ w.stack t)
    (hinStep : f.isInStep = true) : InFlight f (w'.stack t) es := by
  have hboundary : ∀ {run : Run} {frames : List Frame}, f = ⟨run, .boundary⟩ → InFlight f frames es := by
    rintro run frames rfl
    cases hinStep
  cases hturn with
  | rests hsessions hstacks =>
      rw [stack_eq, hstacks, ← stack_eq]
      exact inFlight_of_mem hf
  | stops hw hphase hchanges => exact inFlight_leave h hw hchanges.allStacks hf hboundary
  | completes hw hend hactive hchanges => exact inFlight_leave h hw hchanges.allStacks hf hboundary
  | fails hw hblock hchanges =>
      refine inFlight_leave h hw hchanges.allStacks hf ?_
      rintro rfl
      exact .inr ⟨_, _, rfl, List.mem_cons_self⟩
  | records hw hblock hplain hrunning hchanges =>
      obtain ⟨-, -, hframes, -⟩ := h.ready hw
      rw [toldTask_of_calm (hframes.sound _ List.mem_cons_self).calm] at hchanges
      exact inFlight_turn h hw hchanges.allStacks hf hboundary fun hf => inFlight_of_mem (List.mem_cons_of_mem _ hf)
  | begins hw hblock hdirective hrunning hchanges =>
      exact inFlight_turn h hw hchanges.allStacks hf hboundary fun hf => inFlight_of_mem (List.mem_cons_of_mem _ hf)
  | succeeds hw hblock hchanges =>
      obtain ⟨-, -, hframes, -⟩ := h.ready hw
      rw [toldTask_of_calm (hframes.sound _ List.mem_cons_self).calm] at hchanges
      refine inFlight_turn h hw hchanges.allStacks hf ?_ fun hf => inFlight_of_mem (List.mem_cons_of_mem _ hf)
      rintro rfl
      exact .inr ⟨_, _, rfl, List.mem_cons_self⟩
  | works hw hwork hchanges hhost => exact inFlight_inStep h hw hchanges.allStacks hf (.works rfl hwork)
  | waits hw hchanges => exact inFlight_inStep h hw hchanges.allStacks hf .passes
  | refused hw hchanges => exact inFlight_inStep h hw hchanges.allStacks hf .learns
  | enters hw hentered hsessions hstacks =>
      refine inFlight_turn h hw hstacks hf ?_ ?_
      · rintro rfl
        exact .inl ⟨_, List.mem_cons_of_mem _ List.mem_cons_self, rfl, .awaits⟩
      · exact fun hf => inFlight_of_mem (List.mem_cons_of_mem _ (List.mem_cons_of_mem _ hf))
  | turnedAway hw hentered hsessions hstacks => exact inFlight_inStep h hw hstacks hf .learns
  | commands hw hcarried hsessions hstacks => exact inFlight_inStep h hw hstacks hf .learns

/-- A turn leaves the runs of the other tasks where they are. -/
theorem Turn.stack_other (hturn : Turn w t w' es) {u : Nat} (hu : u ≠ t) : w'.stack u = w.stack u := by
  cases hturn with
  | rests hsessions hstacks => rw [stack_eq, hstacks, ← stack_eq]
  | stops hw hphase hchanges => exact stack_of_set_other hu hchanges.allStacks
  | completes hw hend hactive hchanges => exact stack_of_set_other hu hchanges.allStacks
  | records hw hblock hplain hrunning hchanges => exact stack_of_set_other hu hchanges.allStacks
  | begins hw hblock hdirective hrunning hchanges => exact stack_of_set_other hu hchanges.allStacks
  | succeeds hw hblock hchanges => exact stack_of_set_other hu hchanges.allStacks
  | fails hw hblock hchanges => exact stack_of_set_other hu hchanges.allStacks
  | works hw hwork hchanges hhost =>
      have hstacks : w'.allStacks = w.allStacks.set t _ := hchanges.allStacks
      exact stack_of_set_other hu hstacks
  | waits hw hchanges => exact stack_of_set_other hu hchanges.allStacks
  | refused hw hchanges => exact stack_of_set_other hu hchanges.allStacks
  | enters hw hentered hsessions hstacks => exact stack_of_set_other hu hstacks
  | turnedAway hw hentered hsessions hstacks => exact stack_of_set_other hu hstacks
  | commands hw hcarried hsessions hstacks => exact stack_of_set_other hu hstacks

/-- No move of anybody else touches the runs of a task, but for its own cancellation. -/
theorem stack_move_other (h : Consistent w.sessions w.allStacks) {m : Move} (ht : t < w.allStacks.length)
    (hturn : m ≠ .turn t) (hcancel : m ≠ .cancel t) : (w.move m).stack t = w.stack t := by
  have hsame : ∀ v : Workbench, v.allStacks = w.allStacks → v.stack t = w.stack t := by
    intro v hv
    rw [stack_eq, hv, ← stack_eq]
  cases m with
  | turn u => exact (h.turn u).stack_other fun hu => hturn (hu ▸ rfl)
  | rouse => exact hsame _ (move_rouse w).2
  | request c =>
      rcases move_request w c with hcarried | ⟨hw, -⟩
      · exact hsame _ hcarried.allStacks
      · rw [hw]
  | start o =>
      have happend : ∀ frames, (w.move (.start o)).allStacks = w.allStacks ++ [frames] →
          (w.move (.start o)).stack t = w.stack t := by
        intro frames hstacks
        rw [stack_eq, stack_eq, hstacks, List.getD_eq_getElem?_getD, List.getElem?_append_left ht,
          ← List.getD_eq_getElem?_getD]
      rcases start_cases w o with ⟨f, w₁, -, -, -, hstacks⟩ | ⟨run, w₁, -, -, -, hstacks⟩
      · exact happend _ hstacks
      · exact happend _ hstacks
  | openSession id =>
      rcases move_openSession w id with ⟨n, hopened⟩ | hw
      · exact hsame _ hopened.allStacks
      · rw [hw]
  | parse id text =>
      rcases move_parse w id text with ⟨w₀, n, -, hstacks, -⟩ | hw
      · exact hsame _ hstacks
      · rw [hw]
  | release gate => exact hsame _ (move_release w gate).2
  | cancel u =>
      have hu : t ≠ u := fun hu => hcancel (hu ▸ rfl)
      rcases cancel_eq w u with ⟨-, hw⟩ | ⟨hlt, v, hsessions, hstacks, hw⟩
      · rw [move, hw]
      · rw [← set_stack w u, ← hsessions] at h
        have hrest := (abandon_all hlt h).2
        rw [move, hw]
        exact stack_of_set_other hu (hrest.trans hstacks)

/-- A step in flight goes on until it comes to its own end, whatever the moves are, but for its cancellation. -/
theorem move_inFlight (h : Consistent w.sessions w.allStacks) {m : Move} (hcancel : m ≠ .cancel t) {f : Frame}
    (hf : f ∈ w.stack t) (hinStep : f.isInStep = true) : InFlight f ((w.move m).stack t) (w.happenings m) := by
  by_cases hturn : m = .turn t
  · subst hturn
    exact (h.turn t).inFlight h hf hinStep
  · have ht : t < w.allStacks.length := by
      by_contra ht
      rw [stack_eq, List.getD_eq_getElem?_getD, List.getElem?_eq_none (Nat.le_of_not_lt ht)] at hf
      cases hf
    rw [stack_move_other h ht hturn hcancel]
    exact inFlight_of_mem hf

/-! ### All histories -/

/-- What a history `ms` from `w` on says about the runs of session `n`. -/
structure BoundarySafe (w : Workbench) (ms : List Move) (n : Nat) : Prop where
  /-- A block begins in a running session only. -/
  running : ∀ pre m post i b, ms = pre ++ m :: post → .began n i b ∈ (w.after pre).happenings m →
    ((w.after pre).session n).machine.phase = .running
  paused : ∀ pre mid post i b, w.chronicle ms = pre ++ .paused n :: mid ++ .began n i b :: post →
    .resumed n ∈ mid ∨ ∃ r, .left n r ∈ mid
  stopped : ∀ pre mid post i b, w.chronicle ms = pre ++ .stopped n :: mid ++ .began n i b :: post →
    ∃ r, .left n r ∈ mid
  /-- A step that began comes to an end before the run does anything else. -/
  uncut : ∀ pre mid post i b e, w.chronicle ms = pre ++ .began n i b :: mid ++ e :: post → b.isDirective = true →
    Stage.IsNext n e → .left n none ∉ mid → ∃ queued result, .ended n queued result ∈ mid
  /-- And it comes to that end by itself. -/
  inFlight : ∀ pre m post t f, ms = pre ++ m :: post → m ≠ .cancel t → f ∈ (w.after pre).stack t →
    f.isInStep = true → InFlight f ((w.after (pre ++ [m])).stack t) ((w.after pre).happenings m)
  recorded : ∀ pre m post queued result, ms = pre ++ m :: post →
    .ended n queued result ∈ (w.after pre).happenings m →
    ((w.after (pre ++ [m])).session n).contexts =
      ((w.after pre).session n).contexts.extend (queued ++ returned result)
  /-- A stopped run leaves stopped and idle, or failed with its last step. -/
  ending : ∀ pre mid post r, w.chronicle ms = pre ++ .stopped n :: mid ++ .left n r :: post →
    (∀ r, .left n r ∉ mid) → Stage.EndsStopped n mid r
  /-- Nothing but a cancellation makes a run leave without a report. -/
  reported : ∀ pre m post, ms = pre ++ m :: post → .left n none ∈ (w.after pre).happenings m → ∃ t, m = .cancel t

/-- Whatever is requested in whatever order, runs heed it at their boundaries. -/
theorem after_boundarySafe (registry : Registry) (settings : Settings) (client : Option Client) (host : Host)
    (ms : List Move) (hcalm : ∀ m ∈ ms, m.IsCalm) (n : Nat) :
    BoundarySafe (new registry settings client host) ms n := by
  have h₀ := new_consistent registry settings client host
  have hpath := chronicle_path h₀ hcalm n
  have hpre : ∀ pre m post, ms = pre ++ m :: post →
      Consistent ((new registry settings client host).after pre).sessions
        ((new registry settings client host).after pre).allStacks := by
    intro pre m post hms
    exact after_consistent h₀ fun m' hm' => hcalm m' (hms ▸ List.mem_append_left _ hm')
  refine ⟨?_, ?_, ?_, ?_, ?_, ?_, ?_, ?_⟩
  · intro pre m post i b hms hmem
    rcases turn_of_isOwn hmem .began with ⟨t, rfl, hmem⟩ | ⟨t, k, -, he⟩
    case inr => cases he
    exact ((hpre _ _ _ hms).turn t).running hmem
  · intro pre mid post i b hes
    exact Stage.Path.paused_began (hes ▸ hpath)
  · intro pre mid post i b hes
    exact Stage.Path.stopped_began (hes ▸ hpath)
  · intro pre mid post i b e hes hb he hleft
    exact Stage.Path.began_next (hes ▸ hpath) hb he hleft
  · intro pre m post t f hms hcancel hf hinStep
    rw [after_append]
    exact move_inFlight (hpre _ _ _ hms) hcancel hf hinStep
  · intro pre m post queued result hms hmem
    rcases turn_of_isOwn hmem .ended with ⟨t, rfl, hmem⟩ | ⟨t, k, -, he⟩
    case inr => cases he
    rw [after_append]
    exact ((hpre _ _ _ hms).turn t).recorded (hpre _ _ _ hms) hmem
  · intro pre mid post r hes hfirst
    exact Stage.Path.stopped_left (hes ▸ hpath) hfirst
  · intro pre m post hms hmem
    rcases turn_of_isOwn hmem .left with ⟨t, rfl, hmem⟩ | ⟨t, k, rfl, -⟩
    · exact absurd hmem (((hpre _ _ _ hms).turn t).reported (hpre _ _ _ hms))
    · exact ⟨t, rfl⟩

/-- The run starts, begins its block, is stopped, ends its step and leaves. -/
theorem held_boundarySafe :
    (∀ m ∈ .start Held.order :: Held.moves (.stop "s"), m.IsCalm) ∧
      (Held.bench.chronicle (.start Held.order :: Held.moves (.stop "s"))).length = 5 ∧
      BoundarySafe Held.bench (.start Held.order :: Held.moves (.stop "s")) 0 :=
  ⟨Held.isCalm (.stop "s"), by decide +kernel, after_boundarySafe _ _ _ _ _ (Held.isCalm (.stop "s")) 0⟩

end Workbench

end Playbook
