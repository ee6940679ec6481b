import Playbook.Proofs.Session.Consistency
import Playbook.Proofs.Session.Reading
import Playbook.Proofs.Session.Stacks
import Playbook.Proofs.Skill.Storing
/-!
# Variables along a run

Nobody but the run that has a session changes its variables, and the run does so only by the work of its steps. So what a
step has stored is there until a later step of the same run stores something else under that name, however the run is
delayed and whatever goes on in other sessions. A task that comes before that finds it in the place of its placeholder.
-/

namespace Playbook

open Text

/-! ### Runs that spare a variable -/

/-- What is left to do of a step spares the variable. -/
def Point.Spares (x : WideString) : Point → Prop
  | .boundary => True
  | .working _ activity => activity.Spares x
  | .awaiting _ next => ∀ answer, (next answer).Spares x

theorem Point.Spares.goesOn {x : WideString} {p p' : Point} (h : p.Spares x) (hpoint : p.GoesOn p') : p'.Spares x := by
  cases hpoint with
  | stays => exact h
  | works hpending hwork => exact h.2 _
  | passes => exact h
  | learns => exact h _
  | awaits => exact h
  | returns => exact h _

/-- One piece of work, and then the end. -/
def Activity.WorksOnce {α : Type} : Activity α → Prop
  | work _ next => ∀ result, ∃ ending, next result = .finish ending
  | finish _ | wait .. | command .. => False

/-! ### Directives that name a variable -/

namespace Block

/-- A directive of a built-in skill that names the variable, with blanks around it or without. -/
def Names (b : Block) (r : Registry) (limit : Option TimeLimit) (name : String) : Prop :=
  ∃ s ∈ Builtin.skills limit, r.get? b.name = some s ∧
    (Builtin.scope s.name b.arguments).binding = some (name : WideString).strip

/-- A task whose prompt has the name between double braces and no other brace before or after it. -/
structure Quotes (b : Block) (r : Registry) (name before after : String) : Prop where
  skill : r.get? b.name = some Task.skill
  prompt : b.arguments.lookup "prompt" = some (.str (before ++ "\x7b\x7b" ++ name ++ "\x7d\x7d" ++ after))
  asks : (b.arguments.lookup "debug").isSome = false
  before : '\x7b' ∉ before.toList
  after : '\x7b' ∉ after.toList

variable {r : Registry} {b : Block} {name before after : String} {api : Api}

/-- A built-in directive that names a variable and succeeds works once and stores the variable. -/
theorem Names.dispatch {limit : Option TimeLimit} (h : b.Names r limit name)
    (hdone : ((r.dispatch b.name b.arguments).runAlone api).2.toBool = true) :
    ∃ (piece : Work Product) (finish : Except Failure Product → Except Failure (List Message)) (value : WideString),
      r.dispatch b.name b.arguments = .work piece (fun result => .finish (finish result)) ∧
        (piece.run api).2.bindings = api.bindings.set (name : WideString).strip value := by
  obtain ⟨s, hs, hskill, hx⟩ := h
  obtain ⟨work, hactivity, hstores⟩ := Builtin.skills_store hs hx
  unfold Registry.dispatch at hdone ⊢
  rw [hskill] at hdone ⊢
  dsimp only at hdone ⊢
  split
  · rename_i hgiven
    rw [if_pos hgiven, hactivity] at hdone
    rw [hactivity]
    change ((((work b.arguments).run api).1).bind (Registry.messagesOf b.name)).toBool = true at hdone
    cases hresult : ((work b.arguments).run api).1 with
    | error e =>
        rw [hresult] at hdone
        cases hdone
    | ok product =>
        obtain ⟨value, hvalue⟩ := hstores api product hresult
        exact ⟨work b.arguments, _, value, rfl, hvalue⟩
  · rename_i hgiven
    rw [if_neg hgiven] at hdone
    cases hdone

theorem Quotes.dispatch (h : b.Quotes r name before after) :
    r.dispatch b.name b.arguments =
      .work (Task.work b.arguments) fun result => .finish (result.bind (Registry.messagesOf b.name)) := by
  have hgiven : b.arguments.any (·.1 = "prompt") = true := by
    obtain ⟨l, l', hl, -⟩ := List.lookup_eq_some_iff.1 h.prompt
    simp [hl]
  have hrequired : Task.skill.requiredNames = ["prompt"] := by decide +kernel
  unfold Registry.dispatch
  rw [h.skill]
  dsimp only
  rw [hrequired, List.filter_cons, hgiven]
  rfl

theorem Quotes.filled (h : b.Quotes r name before after) : filled? (b.arguments.lookup "prompt") =
    some ((before : WideString) ++ "\x7b\x7b" ++ name ++ "\x7d\x7d" ++ after) := by
  have hvisible : WideString.isBlank ((before : WideString) ++ "\x7b\x7b" ++ name ++ "\x7d\x7d" ++ after) = false := by
    rw [WideString.isBlank, List.all_eq_false]
    exact ⟨.char '\x7b', by simp, by decide⟩
  rw [h.prompt]
  exact if_neg (Bool.eq_false_iff.1 hvisible)

/-- With the variable set, the model is asked the text with the value in the place of the name. -/
theorem Quotes.asks_value (h : b.Quotes r name before after) (hword : IsWord (name : WideString).strip)
    {value : WideString} (hvalue : api.bindings.get? (name : WideString).strip = some value) :
    ∃ request, (Task.work b.arguments).Asks api request ∧ request.content = before ++ value ++ after :=
  ⟨_, Builtin.task_asks h.filled h.asks api, api.bindings.substitute_between false
    (WideString.char_mem_ofString.not.2 h.before) (WideString.char_mem_ofString.not.2 h.after) hword hvalue⟩

end Block

namespace Frame

variable {r : Registry} {x : WideString} {i k : Nat} {f f' : Frame} {es : List Happening}

/-- The run is on its way from the step at `i`, which is done with its work, to the one at `k`, which is not. -/
inductive IsBetween (r : Registry) (x : WideString) (i k : Nat) (f : Frame) : Prop
  /-- The step at `i` itself does not begin again. -/
  | under (hfrom : i ≤ f.run.next) (hto : f.run.next < k) (hspares : f.point.Spares x)
      (hboundary : f.point = .boundary → i < f.run.next)
  | arrived (hat : f.run.next = k) (hpoint : f.point = .boundary)
  | begun {block : Block} {pending : List Message} (hat : f.run.next = k) (hblock : f.run.blocks[k]? = some block)
      (hpoint : f.point = .working pending (r.dispatch block.name block.arguments))

/-- The run is done with the work of the step at `k`. -/
inductive IsPast (k : Nat) (f : Frame) : Prop
  | done {pending : List Message} {result : Except Failure (List Message)} (hat : f.run.next = k)
      (hpoint : f.point = .working pending (.finish result))
  | beyond (h : k < f.run.next)

theorem Advances.blocks (h : f.Advances r es f') : f'.run.blocks = f.run.blocks := by
  cases h with
  | records | begins | succeeds | inStep => rfl

theorem IsPast.advances (h : f.IsPast k) (hadvances : f.Advances r es f') : f'.IsPast k := by
  cases h with
  | beyond h =>
      cases hadvances with
      | records | succeeds => exact .beyond (Nat.lt_succ_of_lt h)
      | begins | inStep => exact .beyond h
  | done hat hpoint =>
      cases hadvances with
      | records | begins => cases hpoint
      | succeeds => exact .beyond (Nat.lt_succ_of_le (Nat.le_of_eq hat.symm))
      | inStep hgoes =>
          subst hpoint
          cases hgoes with
          | stays => exact .done hat rfl

/-- The steps on the way spare the variable, and the one at the end of it works in one piece. -/
structure Passable (r : Registry) (blocks : List Block) (x : WideString) (i k : Nat) : Prop where
  spares : ∀ j b, i < j → j < k → blocks[j]? = some b → b.isDirective = true →
    (r.dispatch b.name b.arguments).Spares x
  once : ∀ b, blocks[k]? = some b → (r.dispatch b.name b.arguments).WorksOnce

theorem IsBetween.advances (h : f.IsBetween r x i k) (hpassable : Passable r f.run.blocks x i k)
    (hadvances : f.Advances r es f') : f'.IsBetween r x i k ∨ f'.IsPast k := by
  -- At the next boundary the run has arrived, or is still under way.
  have hnext : ∀ run : Run, i ≤ run.next → run.next < k → (Frame.mk run.advance .boundary).IsBetween r x i k := by
    intro run hfrom hto
    rcases Nat.lt_or_eq_of_le (Nat.succ_le_of_lt hto) with hlt | heq
    · exact .under (Nat.le_succ_of_le hfrom) hlt trivial fun _ => Nat.lt_succ_of_le hfrom
    · exact .arrived heq rfl
  cases h with
  | under hfrom hto hspares hboundary =>
      cases hadvances with
      | records hblock hplain => exact .inl (hnext _ hfrom hto)
      | begins hblock hdirective =>
          exact .inl (.under hfrom hto (hpassable.spares _ _ (hboundary rfl) hto hblock hdirective) nofun)
      | succeeds hblock => exact .inl (hnext (Run.addStep _ _) hfrom hto)
      | inStep hgoes =>
          refine .inl (.under hfrom hto (hspares.goesOn hgoes) ?_)
          rintro rfl
          cases hgoes with
          | stays => exact hboundary rfl
  | arrived hat hpoint =>
      cases hadvances with
      | records hblock hplain => exact .inr (.beyond (Nat.lt_succ_of_le (Nat.le_of_eq hat.symm)))
      | begins hblock hdirective => exact .inl (.begun hat (hat ▸ hblock) rfl)
      | succeeds hblock => cases hpoint
      | inStep hgoes =>
          subst hpoint
          cases hgoes with
          | stays => exact .inl (.arrived hat rfl)
  | @begun block pending hat hblock hpoint =>
      have honce := hpassable.once _ hblock
      generalize hactivity : r.dispatch block.name block.arguments = activity at hpoint honce
      cases hadvances with
      | records | begins => cases hpoint
      | succeeds =>
          cases hpoint
          exact honce.elim
      | inStep hgoes =>
          subst hpoint
          cases hgoes with
          | stays => exact .inl (.begun hat hblock (by rw [hactivity]))
          | works hpending hwork =>
              obtain ⟨ending, hending⟩ := honce _
              exact .inr (.done hat (congrArg _ hending))
          | passes | learns | awaits => exact honce.elim

end Frame

namespace Workbench

variable {w w' : Workbench} {d : HostMove} {t u n : Nat} {es : List Happening} {f : Frame}
  {frames frames' outer : List Frame}

/-! ### The run of a session -/

/-- What runs there are after a move were there before, if they did not start in it. -/
theorem Restacked.comes (h : Restacked w d es frames frames') :
    ∀ f' ∈ frames', .started f'.run.session ∈ es ∨ ∃ f ∈ frames, ∃ es', f.Advances w.registry es' f' := by
  have hself : ∀ {frames : List Frame} {f' : Frame}, f' ∈ frames → ∃ f ∈ frames, ∃ es', f.Advances w.registry es' f' :=
    fun hf' => ⟨_, hf', [], .inStep .stays⟩
  have houter : ∀ {f f' : Frame} {outer : List Frame}, f' ∈ outer →
      ∃ g ∈ f :: outer, ∃ es', g.Advances w.registry es' f' :=
    fun hf' => ⟨_, List.mem_cons_of_mem _ hf', [], .inStep .stays⟩
  intro f' hf'
  cases h with
  | stays => exact .inr (hself hf')
  | ends => cases hf'
  | advances hadvances =>
      rcases List.mem_cons.1 hf' with rfl | hf'
      · exact .inr ⟨_, List.mem_cons_self, _, hadvances⟩
      · exact .inr (houter hf')
  | pushes =>
      rcases List.mem_cons.1 hf' with rfl | hf'
      · exact .inl List.mem_cons_self
      · rcases List.mem_cons.1 hf' with rfl | hf'
        · exact .inr ⟨_, List.mem_cons_self, [], .inStep .awaits⟩
        · exact .inr (houter hf')
  | starts =>
      cases List.mem_singleton.1 hf'
      exact .inl List.mem_cons_self
  | @leaves f outer es result hes =>
      unfold left at hf'
      split at hf'
      · rcases List.mem_cons.1 hf' with rfl | hf'
        · exact .inr ⟨_, List.mem_cons_of_mem _ List.mem_cons_self, [], .inStep .returns⟩
        · exact .inr (houter (List.mem_cons_of_mem _ hf'))
      · cases hf'

/-- A session has one run, so that the innermost run of a task is the only one in its session. -/
theorem Tenured.eq_top (h : Tenured w.sessions w.allStacks) {top : Frame} (hstack : w.stack t = top :: outer)
    (hf : f ∈ w.stack u) (hsession : f.run.session = top.run.session) : u = t ∧ f = top := by
  have hu : u = t := by
    by_contra hu
    exact h.session_ne hu (hstack ▸ List.mem_cons_self) hf hsession
  subst hu
  have hnodup := h.holders_nodup u
  rw [hstack] at hf hnodup
  rcases List.mem_cons.1 hf with rfl | hf
  · exact ⟨rfl, rfl⟩
  · exact absurd (List.mem_map.2 ⟨f, hf, hsession⟩) (List.nodup_cons.1 hnodup).1

theorem Tenured.owned_of_mem (h : Tenured w.sessions w.allStacks) (hf : f ∈ w.stack t) :
    (w.session f.run.session).machine.isOwned = true := by
  obtain ⟨top, outer, hstack⟩ := List.exists_cons_of_ne_nil (List.ne_nil_of_mem hf)
  obtain ⟨ht, -, -, -⟩ := h.stack hstack
  rw [stack_eq] at hf
  exact (h.owned (getD_mem ht) hf).1

/-! ### Who changes variables -/

/-- In the turn of the task the run of the session does a piece of work. -/
structure Works (w : Workbench) (t n : Nat) (w' : Workbench) (run : Run) (pending pending' : List Message)
    (piece : Work Product) (next : Except Failure Product → Activity (List Message)) : Prop where
  session : run.session = n
  before : ∃ outer, w.stack t = ⟨run, .working pending (.work piece next)⟩ :: outer
  after : ∃ outer, w'.stack t =
    ⟨run, .working pending' (next (piece.run (run.api (w.session n) w.host pending)).1)⟩ :: outer
  bindings : (w'.session n).bindings = (piece.run (run.api (w.session n) w.host pending)).2.bindings

theorem Changes.bindings {k : Nat} {g : Session → Session} {s : TaskState} (h : Changes w t k g s w')
    (hg : ∀ s, (g s).bindings = s.bindings) : (w'.session n).bindings = (w.session n).bindings := by
  rw [session_eq, h.sessions]
  exact Sessions.apply_get_update _ _ _ _ Session.bindings hg

theorem Turn.bindings (h : Tenured w.sessions w.allStacks) (howned : (w.session n).machine.isOwned = true)
    (hturn : Turn w t w' es) :
    (w'.session n).bindings = (w.session n).bindings ∨
      ∃ run pending pending' piece next, Works w t n w' run pending pending' piece next := by
  have hremember : ∀ (run : Run) (result : Except Failure RunReport) (s : Session),
      (run.remember result s).bindings = s.bindings := by
    intro run result s
    obtain ⟨last, hlast⟩ := run.remember_eq result s
    rw [hlast]
  cases hturn with
  | rests hsessions hstacks =>
      rw [session_eq, hsessions]
      exact .inl rfl
  | stops hw hphase hchanges => exact .inl (hchanges.bindings fun s => hremember ..)
  | completes hw hend hactive hchanges => exact .inl (hchanges.bindings fun s => hremember ..)
  | fails hw hblock hchanges => exact .inl (hchanges.bindings fun s => hremember ..)
  | records hw hblock hplain hrunning hchanges => exact .inl (hchanges.bindings fun _ => rfl)
  | begins hw hblock hdirective hrunning hchanges => exact .inl (hchanges.bindings fun _ => rfl)
  | succeeds hw hblock hchanges => exact .inl (hchanges.bindings fun _ => rfl)
  | waits hw hchanges => exact .inl (hchanges.bindings fun _ => rfl)
  | refused hw hchanges => exact .inl (hchanges.bindings fun _ => rfl)
  | @works run outer pending piece next result api hw hwork hchanges hhost =>
      obtain ⟨ht, -, -, htaken⟩ := h.stack (stack_of_ready hw)
      by_cases hmine : run.session = n
      · subst hmine
        refine .inr ⟨run, pending, api.pending, piece, next, rfl, ⟨outer, stack_of_ready hw⟩, ⟨outer, ?_⟩, ?_⟩
        · rw [hwork]
          exact stack_of_set ht hchanges.allStacks
        · rw [hwork]
          have hsession := hchanges.session (Sessions.lt_length_of_taken htaken)
          exact congrArg Session.bindings hsession
      · left
        have hsessions := hchanges.sessions
        change w'.sessions = _ at hsessions
        rw [session_eq, hsessions, Sessions.get_update_other _ _ (Ne.symm hmine)]
        rfl
  | enters hw hentered hsessions hstacks =>
      rw [session_eq, hsessions]
      exact .inl (hentered.of_owned Session.bindings (fun _ _ => rfl) howned).1
  | turnedAway hw hentered hsessions hstacks =>
      rw [session_eq, hsessions]
      exact .inl (hentered.of_owned Session.bindings (fun _ _ => rfl) howned).1
  | commands hw hcarried hsessions hstacks =>
      rw [session_eq, hsessions]
      exact .inl (hcarried.kept_of_owned Session.bindings (fun _ _ _ => rfl) howned)

theorem Served.bindings {s : Sessions} (h : Tenured w.sessions w.allStacks)
    (howned : (w.session n).machine.isOwned = true) (hserved : Served w d s) (hturn : ∀ t, d ≠ .move (.turn t)) :
    (s.get n).bindings = (w.session n).bindings := by
  have hopens : ∀ {id : String} {v : Workbench} {k : Nat}, Opened w id v k →
      (v.sessions.get n).bindings = (w.session n).bindings :=
    fun hopened => congrArg Session.bindings (hopened.session_of_owned howned)
  cases hserved with
  | stays => rfl
  | turns => exact absurd rfl (hturn _)
  | requests hcarried => exact hcarried.kept_of_owned Session.bindings (fun _ _ _ => rfl) howned
  | starts hentered => exact (hentered.of_owned Session.bindings (fun _ _ => rfl) howned).1
  | opens hopened => exact hopens hopened
  | parses hopened =>
      refine (Sessions.apply_get_update _ _ _ _ Session.bindings ?_).trans (hopens hopened)
      exact fun _ => rfl
  | opensApart hopened => exact hopens hopened
  | startsApart hopened hfree =>
      refine (Sessions.apply_get_update _ _ _ _ Session.bindings ?_).trans (hopens hopened)
      exact fun _ => rfl
  | @cancels t =>
      refine h.cancelled (p := fun s => (s.get n).bindings = (w.session n).bindings) t rfl fun s f _ m hs _ _ => ?_
      refine (Sessions.apply_get_update _ _ _ _ Session.bindings ?_).trans hs
      exact fun _ => rfl

/-- Whatever a host does, a session that has a run keeps its variables, unless the run does a piece of work. -/
theorem serve_bindings (h : Tenured w.sessions w.allStacks) (howned : (w.session n).machine.isOwned = true)
    (d : HostMove) :
    ((w.serve d).session n).bindings = (w.session n).bindings ∨
      ∃ t run pending pending' piece next, Works w t n (w.serve d) run pending pending' piece next := by
  by_cases hturn : ∃ t, d = .move (.turn t)
  · obtain ⟨t, rfl⟩ := hturn
    rcases (h.turn t).bindings h howned with hsame | hworks
    · exact .inl hsame
    · exact .inr ⟨t, hworks⟩
  · exact .inl ((h.served d).bindings h howned fun t ht => hturn ⟨t, ht⟩)

/-! ### What is remembered -/

/-- The run of the session is on its way from one step to another, and the variable has its value until it is there. -/
structure Remembers (w : Workbench) (n : Nat) (blocks : List Block) (x value : WideString) (i k : Nat) : Prop where
  tenured : Tenured w.sessions w.allStacks
  passable : Frame.Passable w.registry blocks x i k
  runs : ∀ t, ∀ f ∈ w.stack t, f.run.session = n → f.run.blocks = blocks ∧
    (f.IsPast k ∨ f.IsBetween w.registry x i k ∧ (w.session n).bindings.get? x = some value)

variable {blocks : List Block} {x value : WideString} {i k : Nat}

/-- The work of a step on the way spares the variable; with the last one the run is past. -/
theorem Remembers.works (h : Remembers w n blocks x value i k) {run : Run} {pending pending' : List Message}
    {piece : Work Product} {next : Except Failure Product → Activity (List Message)}
    (hworks : Works w t n w' run pending pending' piece next) :
    let f' : Frame := ⟨run, .working pending' (next (piece.run (run.api (w.session n) w.host pending)).1)⟩
    run.blocks = blocks ∧
      (f'.IsPast k ∨ f'.IsBetween w'.registry x i k ∧ (w'.session n).bindings.get? x = some value) := by
  intro f'
  obtain ⟨outer, hbefore⟩ := hworks.before
  obtain ⟨hblocks, hrun⟩ := h.runs t _ (hbefore ▸ List.mem_cons_self) hworks.session
  refine ⟨hblocks, ?_⟩
  rcases hrun with hpast | ⟨hbetween, hvalue⟩
  · cases hpast with
    | beyond hbeyond => exact .inl (.beyond hbeyond)
    | done hat hpoint => cases hpoint
  · cases hbetween with
    | under hfrom hto hspares hboundary =>
        refine .inr ⟨.under hfrom hto (hspares.2 _) nofun, ?_⟩
        rw [hworks.bindings, hspares.1]
        exact hvalue
    | arrived hat hpoint => cases hpoint
    | begun hat hblock hpoint =>
        have honce := h.passable.once _ (hblocks ▸ hblock)
        rw [← (Point.working.inj hpoint).2] at honce
        obtain ⟨ending, hending⟩ := honce (piece.run (run.api (w.session n) w.host pending)).1
        exact .inl (.done hat (congrArg _ hending))

theorem Remembers.serve (h : Remembers w n blocks x value i k) (hsame : .started n ∉ w.occurrences d) :
    Remembers (w.serve d) n blocks x value i k where
  tenured := h.tenured.pass (serve_handsOver h.tenured d)
  passable := (registry_serve w d).symm ▸ h.passable
  runs := by
    intro u f' hf' hn
    have h' := h.tenured.pass (serve_handsOver h.tenured d)
    obtain ⟨t, hrestacked, hothers⟩ := serve_concerns h.tenured d
    obtain ⟨f, hf, es', hadvances⟩ : ∃ f ∈ w.stack u, ∃ es', f.Advances w.registry es' f' := by
      by_cases hu : u = t
      · subst hu
        rcases hrestacked.comes f' hf' with hstarted | hcomes
        · rw [hn] at hstarted
          exact absurd (List.mem_of_mem_filter hstarted) hsame
        · exact hcomes
      · rw [hothers u hu] at hf'
        exact ⟨f', hf', [], .inStep .stays⟩
    have hsession : f.run.session = n := hadvances.session.symm.trans hn
    -- Either the variables are as they were, or it is this very run that did a piece of work.
    rcases serve_bindings h.tenured (hsession ▸ h.tenured.owned_of_mem hf) d with
      hkept | ⟨t', run, pending, pending', piece, next, hworks⟩
    · obtain ⟨hblocks, hrun⟩ := h.runs u f hf hsession
      refine ⟨hadvances.blocks.trans hblocks, ?_⟩
      rw [registry_serve, hkept]
      rcases hrun with hpast | ⟨hbetween, hvalue⟩
      · exact .inl (hpast.advances hadvances)
      · rcases hbetween.advances (hblocks ▸ h.passable) hadvances with hbetween | hpast
        · exact .inr ⟨hbetween, hvalue⟩
        · exact .inl hpast
    · obtain ⟨outer, hafter⟩ := hworks.after
      obtain ⟨rfl, rfl⟩ := h'.eq_top hafter hf' (hn.trans hworks.session.symm)
      exact h.works hworks

theorem Remembers.following (h : Remembers w n blocks x value i k) {ds : List HostMove}
    (hsame : .started n ∉ w.annals ds) : Remembers (w.following ds) n blocks x value i k := by
  induction ds generalizing w with
  | nil => exact h
  | cons d ds ih =>
      rw [annals, List.mem_append, not_or] at hsame
      exact ih (h.serve hsame.1) hsame.2

/-- When the run does the work of the step at `k`, the variable has its value. -/
theorem Remembers.arrives (h : Remembers w n blocks x value i k) {run : Run} {pending : List Message}
    {piece : Work Product} {next : Except Failure Product → Activity (List Message)}
    (hw : w.task t = .ready (⟨run, .working pending (.work piece next)⟩ :: outer)) (hsession : run.session = n)
    (hat : run.next = k) :
    ∃ b, blocks[k]? = some b ∧ w.registry.dispatch b.name b.arguments = .work piece next ∧
      (w.session n).bindings.get? x = some value := by
  have hmem : ⟨run, .working pending (.work piece next)⟩ ∈ w.stack t := stack_of_ready hw ▸ List.mem_cons_self
  obtain ⟨hblocks, hrun⟩ := h.runs t _ hmem hsession
  rcases hrun with hpast | ⟨hbetween, hvalue⟩
  · cases hpast with
    | done hdone hpoint => cases hpoint
    | beyond hbeyond => exact absurd hat (Nat.ne_of_gt hbeyond)
  · cases hbetween with
    | under hfrom hto => exact absurd hat (Nat.ne_of_lt hto)
    | arrived harrived hpoint => cases hpoint
    | @begun b queued hbegun hblock hpoint =>
        exact ⟨b, hblocks ▸ hblock, (Point.working.inj hpoint).2.symm, hvalue⟩

/-! ### From the step that stores to the task -/

/-- After a piece of work the session has the variables that the work left. -/
theorem bindings_of_work {run : Run} {pending : List Message} {piece : Work Product}
    {next : Except Failure Product → Activity (List Message)} (h : Tenured w.sessions w.allStacks)
    (hw : w.task t = .ready (⟨run, .working pending (.work piece next)⟩ :: outer)) :
    ((w.step t).session run.session).bindings =
      (piece.run (run.api (w.session run.session) w.host pending)).2.bindings := by
  obtain ⟨-, -, -, htaken⟩ := h.stack (stack_of_ready hw)
  obtain ⟨hchanges, -⟩ := step_works hw rfl
  exact congrArg Session.bindings (hchanges.session (Sessions.lt_length_of_taken htaken))

/-- The run that has just stored the variable goes on to the step at `k`. -/
theorem remembers_of_stored {run : Run} {pending : List Message} {piece : Work Product}
    {finish : Except Failure Product → Except Failure (List Message)} (h : Tenured w.sessions w.allStacks)
    (hw : w.task t = .ready (⟨run, .working pending (.work piece fun result => .finish (finish result))⟩ :: outer))
    (hstored : (piece.run (run.api (w.session run.session) w.host pending)).2.bindings.get? x = some value)
    (hk : run.next < k) (hpassable : Frame.Passable w.registry run.blocks x run.next k) :
    Remembers (w.step t) run.session run.blocks x value run.next k := by
  have h' : Tenured (w.step t).sessions (w.step t).allStacks := h.pass (serve_handsOver h (.move (.turn t)))
  obtain ⟨ht, -, -, -⟩ := h.stack (stack_of_ready hw)
  obtain ⟨hchanges, -⟩ := step_works hw rfl
  have hstack : (w.step t).stack t = _ := stack_of_set ht hchanges.allStacks
  refine ⟨h', (registry_step w t).symm ▸ hpassable, fun u f hf hsession => ?_⟩
  obtain ⟨rfl, rfl⟩ := h'.eq_top hstack hf hsession
  refine ⟨rfl, .inr ⟨.under (Nat.le_refl _) hk trivial nofun, ?_⟩⟩
  rw [bindings_of_work h hw]
  exact hstored

/-- **Reading back what was stored.** A directive that names a variable and succeeds stores some value in it. From then on
whatever may go on, as long as no step of the run may change the variable: a task of the run whose prompt has the name
between double braces asks the model for the text with the value in their place. -/
theorem stored_recalled {registry : Registry} {settings : Settings} {client : Option Client} {host : Host}
    {past : List HostMove} {limit : Option TimeLimit} {store : Block} {run : Run} {pending : List Message}
    {name : String}
    (hw : w = (new registry settings client host).following past)
    (hstep : w.task t = .ready (⟨run, .working pending (registry.dispatch store.name store.arguments)⟩ :: outer))
    (hnames : store.Names registry limit name) (hword : IsWord (name : WideString).strip)
    (hdone : ((registry.dispatch store.name store.arguments).runAlone
      (run.api (w.session run.session) w.host pending)).2.toBool = true) :
    ∃ value, ((w.step t).session run.session).bindings =
      (w.session run.session).bindings.set (name : WideString).strip value ∧
      ∀ k ask before after ds, run.next < k → run.blocks[k]? = some ask → ask.Quotes registry name before after →
        (∀ j b, run.next < j → j < k → run.blocks[j]? = some b → b.isDirective = true →
          (registry.dispatch b.name b.arguments).Spares (name : WideString).strip) →
        .started run.session ∉ (w.step t).annals ds →
        ∀ t' run' outer' pending' piece next,
          ((w.step t).following ds).task t' = .ready (⟨run', .working pending' (.work piece next)⟩ :: outer') →
          run'.session = run.session → run'.next = k →
          ∃ request, piece.Asks (run'.api (((w.step t).following ds).session run'.session)
              ((w.step t).following ds).host pending') request ∧
            request.content = before ++ value ++ after := by
  have htenured : Tenured w.sessions w.allStacks :=
    hw ▸ following_tenured (new_tenured registry settings client host) past
  have hregistry : w.registry = registry := hw ▸ registry_following _ past
  obtain ⟨piece, finish, value, hactivity, hstored⟩ := hnames.dispatch hdone
  rw [hactivity] at hstep
  have hvalue := (congrArg (·.get? (name : WideString).strip) hstored).trans (Variables.get?_set _ _ _)
  refine ⟨value, ?_, ?_⟩
  · exact (bindings_of_work htenured hstep).trans hstored
  intro k ask before after ds hk hblock hask hspares hsame t' run' outer' pending' piece' next hw' hsession hat
  have hpassable : Frame.Passable w.registry run.blocks (name : WideString).strip run.next k := by
    refine ⟨hregistry ▸ hspares, fun b hb => ?_⟩
    obtain rfl := Option.some.inj (hblock.symm.trans hb)
    rw [hregistry, hask.dispatch]
    exact fun result => ⟨_, rfl⟩
  have hremembers := (remembers_of_stored htenured hstep hvalue hk hpassable).following hsame
  obtain ⟨b, hb, hdispatch, hfound⟩ := hremembers.arrives hw' hsession hat
  obtain rfl := Option.some.inj (hblock.symm.trans hb)
  rw [registry_following, registry_step, hregistry, hask.dispatch] at hdispatch
  cases hdispatch
  exact hask.asks_value hword (hsession ▸ hfound)

/-- The task does a piece of work of the step at `i` in the session, and no other run waits for it. -/
def isWorkingAt (n i : Nat) : TaskState → Bool
  | .ready [⟨run, .working _ (.work _ _)⟩] => run.session == n && run.next == i
  | _ => false

theorem exists_of_isWorkingAt {s : TaskState} (h : isWorkingAt n i s = true) :
    ∃ run pending piece next, s = .ready [⟨run, .working pending (.work piece next)⟩] ∧ run.session = n ∧ run.next = i := by
  unfold isWorkingAt at h
  split at h
  · rename_i run pending piece next
    rw [Bool.and_eq_true, beq_iff_eq, beq_iff_eq] at h
    exact ⟨run, pending, piece, next, rfl, h⟩
  · cases h

def isStart : Happening → Bool
  | .started _ => true
  | _ => false

namespace Greeting

/-- An echoing model, and a user whose answer is `Ada`. -/
def bench : Workbench :=
  .new (Builtin.registry none) .standard (some (.new (some "m") (.echo none)))
    { Held.host with answers := some ⟨[some "Ada"], .skill .inputCancelled⟩ }

/-- The user is asked for a name, another conversation is selected, and the name is greeted. -/
def order (name : String) : Order :=
  ⟨"talk", "@input --prompt \"Name\" --variable \"" ++ name ++ "\"\n@context --name \"c\"\n" ++
    "@task --prompt \"Hi \x7b\x7b" ++ name ++ "\x7d\x7d!\"", .nobody⟩

def store : Block :=
  ⟨"input",
    [⟨"prompt", ["Name"], some ⟨1, 7, 8⟩, [⟨1, 16, 6⟩]⟩, ⟨"variable", ["user"], some ⟨1, 23, 10⟩, [⟨1, 34, 6⟩]⟩],
    "@input --prompt \"Name\" --variable \"user\"", 1, 1, some ⟨1, 0, 6⟩, none⟩

def select : Block :=
  ⟨"context", [⟨"name", ["c"], some ⟨2, 9, 6⟩, [⟨2, 16, 3⟩]⟩], "@context --name \"c\"", 2, 2, some ⟨2, 0, 8⟩, none⟩

def ask : Block :=
  ⟨"task", [⟨"prompt", ["Hi \x7b\x7buser\x7d\x7d!"], some ⟨3, 6, 8⟩, [⟨3, 15, 14⟩]⟩],
    "@task --prompt \"Hi \x7b\x7buser\x7d\x7d!\"", 3, 3, some ⟨3, 0, 5⟩, none⟩

theorem parsed : (Document.parse (order "user").text).blocks = [store, select, ask] := by decide +kernel

theorem names : store.Names (Builtin.registry none) none "user" :=
  ⟨Builtin.input, by simp [Builtin.skills], rfl, by decide +kernel⟩

theorem quotes : ask.Quotes (Builtin.registry none) "user" "Hi " "!" where
  skill := rfl
  prompt := by
    have hprompt : ("Hi \x7b\x7buser\x7d\x7d!" : WideString) = "Hi " ++ "\x7b\x7b" ++ "user" ++ "\x7d\x7d" ++ "!" := by
      decide +kernel
    exact congrArg (fun s => some (Json.str s)) hprompt
  asks := rfl
  before := by decide
  after := by decide

theorem word : IsWord ("user" : WideString).strip := by decide +kernel

/-- Between the question and the greeting nothing is stored. -/
theorem spares (j : Nat) (b : Block) (hfrom : 0 < j) (hto : j < 2) (hb : [store, select, ask][j]? = some b) :
    ((Builtin.registry none).dispatch b.name b.arguments).Spares ("user" : WideString).strip := by
  obtain rfl : j = 1 := Nat.le_antisymm (Nat.le_of_lt_succ hto) hfrom
  obtain rfl : select = b := Option.some.inj hb
  exact Builtin.registry_spares none _ _ (by decide +kernel)

end Greeting

/-- The answer is in the greeting, although another step comes in between. -/
theorem stored_recalled_greeting :
    let w := (Greeting.bench.move (.start (Greeting.order "user"))).step 0
    let w' := (w.step 0).following (List.replicate 5 (.move (.turn 0)))
    ∃ run pending piece next request, w'.task 0 = .ready [⟨run, .working pending (.work piece next)⟩] ∧ run.next = 2 ∧
      piece.Asks (run.api (w'.session run.session) w'.host pending) request ∧ request.content = "Hi Ada!" := by
  intro w w'
  let start := Greeting.bench
  let o := Greeting.order "user"
  -- The run begins with the question.
  have hentered : (start.enter o).2.toBool = true := by decide +kernel
  obtain ⟨run, hrun⟩ := exists_of_toBool hentered
  have hids : start.sessions.IsNumbered := fun p hp => absurd hp List.not_mem_nil
  obtain ⟨htask, hmade, hrunning, hregistry, n, rfl⟩ := start_ready hids hrun
  have hlength : (start.move (.start o)).sessions.made.length = 1 := by decide +kernel
  obtain rfl : n = 0 := Nat.lt_one_iff.1 (hlength ▸ hmade)
  have hblocks : (start.ordered 0 o).blocks = [Greeting.store, Greeting.select, Greeting.ask] := by
    dsimp only [ordered]
    exact Greeting.parsed
  have hstep := (step_begins htask (congrArg (·[0]?) hblocks) rfl hrunning).task
  rw [hregistry] at hstep
  have hdone : (((Builtin.registry none).dispatch Greeting.store.name Greeting.store.arguments).runAlone
      ((start.ordered 0 o).api (w.session 0) w.host [])).2.toBool = true := by decide +kernel
  have hw : ∀ start : Workbench, (start.move (.start o)).step 0 = start.following [.move (.start o), .move (.turn 0)] :=
    fun _ => rfl
  obtain ⟨value, hvalue, hrecalled⟩ := stored_recalled (hw start) hstep Greeting.names Greeting.word hdone
  have hada : ((w.step 0).session 0).bindings.get? ("user" : WideString).strip = some ("Ada" : WideString) := by
    decide +kernel
  obtain rfl : value = "Ada" := by
    rw [show ((w.step 0).session 0).bindings = _ from hvalue, Variables.get?_set] at hada
    exact Option.some.inj hada
  -- Five turns later it is about to ask the model.
  have hquiet : ((w.step 0).annals (List.replicate 5 (.move (.turn 0)))).all (!isStart ·) = true := by decide +kernel
  have hlater : isWorkingAt 0 2 (w'.task 0) = true := by decide +kernel
  obtain ⟨run, pending, piece, next, hready, hsession, hnext⟩ := exists_of_isWorkingAt hlater
  obtain ⟨request, hasks, hcontent⟩ := hrecalled 2 Greeting.ask "Hi " "!" _ (Nat.succ_pos 1) (congrArg (·[2]?) hblocks)
    Greeting.quotes (fun j b hfrom hto hb _ => Greeting.spares j b hfrom hto (hblocks ▸ hb))
    (fun h => Bool.false_ne_true (List.all_eq_true.1 hquiet _ h)) 0 run [] pending piece next hready hsession hnext
  exact ⟨run, pending, piece, next, request, hready, hnext, hasks, hcontent⟩

/-- `my-var` is no word. The answer is stored under this name all the same, but the model gets the prompt as it is
written. -/
theorem not_recalled_of_hyphen :
    let w := Greeting.bench.following (.move (.start (Greeting.order "my-var")) :: List.replicate 9 (.move (.turn 0)))
    (w.session 0).bindings.get? "my-var" = some ("Ada" : WideString) ∧
      ((w.session 0).client.map fun c => c.requests.map (·.content)) =
        some [("Hi \x7b\x7bmy-var\x7d\x7d!" : WideString)] ∧
      "Hi \x7b\x7bmy-var\x7d\x7d!" ≠ "Hi " ++ "Ada" ++ "!" := by
  decide +kernel

end Workbench

end Playbook
