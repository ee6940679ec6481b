import Playbook.Proofs.Session.Release
/-!
# Sessions and their ids

An id stands for at most one open session, but a session that was closed may still have its run, and the id may stand
for another session by then. `IsFiled` says what the ids and the sessions have to do with each other in every state:
a session that an id stands for has that id, and a session that no id stands for is stopped, if a run of it is left
at all. So of all runs of an id at most one goes on. The others are those of closed sessions, in their last step.
-/

namespace Playbook

/-! ### Ids -/

namespace Sessions

/-- Some id stands for the session. -/
def IsOpen (s : Sessions) (n : Nat) : Prop := ∃ id, s.number? id = some n

/-- A session keeps its id for ever, and once it is closed nothing makes it active again. -/
structure IsFiled (s : Sessions) : Prop where
  named : ∀ id n, s.number? id = some n → (s.get n).id = id
  closed : ∀ n, (s.get n).machine.isActive = true → s.IsOpen n

variable {s : Sessions} {n : Nat} {id : String} {g : Session → Session}

theorem number?_add (x : Session) (id : String) :
    (s.add x).1.number? id = (s.number? id).or (if id = x.id then some s.made.length else none) := by
  change (s.ids ++ [(x.id, s.made.length)]).lookup id = _
  rw [List.lookup_append]
  congr 1
  rw [List.lookup_cons]
  split
  · rename_i heq
    rw [if_pos (beq_iff_eq.1 heq)]
  · rename_i heq
    rw [if_neg (beq_eq_false_iff_ne.1 heq)]
    rfl

theorem number?_remove (id' : String) :
    (s.remove id).number? id' = if id' = id then none else s.number? id' := by
  unfold remove number?
  induction s.ids with
  | nil => simp
  | cons p ids ih =>
      by_cases hp : p.1 = id
      · rw [List.filter_cons_of_neg (by simpa using hp), ih]
        split
        · rfl
        · rename_i hid
          rw [List.lookup_cons, beq_eq_false_iff_ne.2 fun heq => hid (heq.trans hp)]
      · rw [List.filter_cons_of_pos (by simpa using hp), List.lookup_cons, List.lookup_cons, ih]
        split
        · rename_i heq
          rw [if_neg fun hid => hp (by rw [← hid]; exact (beq_iff_eq.1 heq).symm)]
        · rfl

/-- A change that makes only open sessions active. -/
theorem IsFiled.update (h : s.IsFiled) (hn : n < s.made.length) (hid : ∀ x, (g x).id = x.id)
    (hactive : (g (s.get n)).machine.isActive = true → (s.get n).machine.isActive = true ∨ s.IsOpen n) :
    (s.update n g).IsFiled where
  named id' m hm := by
    rw [apply_get_update s n m g Session.id hid]
    exact h.named id' m hm
  closed m hm := by
    by_cases hmn : m = n
    · subst hmn
      rw [get_update_same s g hn] at hm
      exact (hactive hm).elim (h.closed m) id
    · rw [get_update_other s g hmn] at hm
      exact h.closed m hm

theorem IsFiled.add (h : s.IsFiled) (hnumbered : s.IsNumbered) {x : Session} (hx : x.machine = .new x.id) :
    (s.add x).1.IsFiled where
  named id' m hm := by
    rw [number?_add] at hm
    rw [get_add]
    cases hid : s.number? id' with
    | some k =>
        rw [hid] at hm
        cases hm
        rw [if_neg (Nat.ne_of_lt (hnumbered.lt_of_number? hid))]
        exact h.named id' _ hid
    | none =>
        rw [hid, Option.none_or] at hm
        split at hm
        · rename_i hname
          cases hm
          rw [if_pos rfl, hname]
        · cases hm
  closed m hm := by
    rw [get_add] at hm
    split at hm
    · rw [hx] at hm
      cases hm
    · obtain ⟨id', hid⟩ := h.closed m hm
      exact ⟨id', by rw [number?_add, hid, Option.some_or]⟩

/-- Closing a session takes its id away and stops its run. -/
theorem IsFiled.close (h : s.IsFiled) (hnumbered : s.IsNumbered) (hn : s.number? id = some n)
    (hid : ∀ x, (g x).id = x.id) (hstop : (g (s.get n)).machine.isActive = false) :
    ((s.remove id).update n g).IsFiled where
  named id' m hm := by
    change (s.remove id).number? id' = some m at hm
    rw [number?_remove] at hm
    rw [apply_get_update (s.remove id) n m g Session.id hid]
    split at hm
    · cases hm
    · exact h.named id' m hm
  closed m hm := by
    by_cases hmn : m = n
    · subst hmn
      rw [get_update_same (s.remove id) g (hnumbered.lt_of_number? hn)] at hm
      exact absurd (hstop.symm.trans hm) Bool.false_ne_true
    · rw [get_update_other (s.remove id) g hmn] at hm
      obtain ⟨id', hid'⟩ := h.closed m hm
      refine ⟨id', ?_⟩
      change (s.remove id).number? id' = some m
      rw [number?_remove, if_neg, hid']
      rintro rfl
      exact hmn (Option.some.inj (hid'.symm.trans hn))

end Sessions

theorem Run.id_remember (run : Run) (result : Except Failure RunReport) (s : Session) :
    (run.remember result s).id = s.id := by
  obtain ⟨last, h⟩ := run.remember_eq result s
  rw [h]

theorem Machine.not_isActive_stop (m : Machine) : m.stop.1.isActive = false := by
  cases h : m.isActive with
  | true =>
      rw [stop_of_active h]
      rfl
  | false =>
      rw [stop_of_not_active h]
      exact h

namespace Workbench

/-! ### Every state is filed -/

section Filed

variable {w w' : Workbench} {n t : Nat} {allStacks : List (List Frame)}

theorem Opened.filed {id : String} (h : w.sessions.IsFiled) (hnumbered : w.sessions.IsNumbered)
    (hopen : Opened w id w' n) : w'.sessions.IsFiled := by
  cases hopen with
  | found hn hw =>
      rw [hw]
      exact h
  | made s hn hs hw hlast =>
      obtain ⟨hid, hmachine⟩ := machine_new hs
      rw [hw]
      exact h.add hnumbered (by rw [hmachine, hid])

theorem Carried.filed {c : Command} {es : List Happening} (h : w.sessions.IsFiled) (hnumbered : w.sessions.IsNumbered)
    (hc : Carried w c w' es) : w'.sessions.IsFiled := by
  cases hc with
  | pause hn hm =>
      rw [sessions_moved]
      exact h.update (hnumbered.lt_of_number? hn) (fun _ => rfl) fun _ => .inr ⟨_, hn⟩
  | resume hn hm =>
      rw [sessions_moved]
      exact h.update (hnumbered.lt_of_number? hn) (fun _ => rfl) fun _ => .inr ⟨_, hn⟩
  | stop hn =>
      rw [sessions_moved]
      exact h.update (hnumbered.lt_of_number? hn) (fun _ => rfl) fun _ => .inr ⟨_, hn⟩
  | @reset id clear n m w' hn hm hsessions hstacks =>
      rw [hsessions]
      refine h.update (hnumbered.lt_of_number? hn) (fun _ => ?_) fun _ => .inr ⟨_, hn⟩
      cases clear <;> rfl
  | close hn hsessions hstacks =>
      rw [hsessions]
      exact h.close hnumbered hn (fun _ => rfl) (Machine.not_isActive_stop _)
  | closeUnknown hn => exact h
  | phase hn => exact h

/-- A run starts in a session that its id stands for. -/
theorem Entered.filed {o : Order} {result : Except Failure Run} (h : Tenured w.sessions allStacks)
    (hfiled : w.sessions.IsFiled) (he : Entered w o w' result) : w'.sessions.IsFiled := by
  cases he with
  | unopened hopen => exact hfiled
  | busy hn howned => exact hfiled
  | turnedDown hopen hfree hsessions hstacks =>
      rw [hsessions]
      exact (hopen.filed hfiled h.ids).update (hopen.lt_length h.ids) (fun _ => rfl) .inl
  | started hopen hexecutable hfree hidle hsessions hstacks hregistry =>
      rw [hsessions]
      exact (hopen.filed hfiled h.ids).update (hopen.lt_length h.ids) (fun _ => rfl) fun _ => .inr ⟨_, hopen.number?⟩

/-- A run that goes on does nothing to its machine, and one that leaves does not make it active. -/
theorem Tenured.filed {run : Run} {point : Point} {outer : List Frame} {g : Session → Session} {s : TaskState}
    (h : Tenured w.sessions w.allStacks) (hfiled : w.sessions.IsFiled)
    (hw : w.task t = .ready (⟨run, point⟩ :: outer)) (hchanges : Changes w t run.session g s w')
    (hid : ∀ x, (g x).id = x.id)
    (hactive : (g (w.session run.session)).machine.isActive = true → (w.session run.session).machine.isActive = true) :
    w'.sessions.IsFiled := by
  obtain ⟨-, -, -, htaken⟩ := h.stack (stack_of_ready hw)
  rw [hchanges.sessions]
  exact hfiled.update (Sessions.lt_length_of_taken htaken) hid fun hg => .inl (hactive hg)

theorem Tenured.filed_over {run : Run} {point : Point} {outer : List Frame} {g : Session → Session} {s : TaskState}
    {result : Except Failure RunReport} (h : Tenured w.sessions w.allStacks) (hfiled : w.sessions.IsFiled)
    (hw : w.task t = .ready (⟨run, point⟩ :: outer))
    (hchanges : Changes w t run.session (fun x => run.remember result (g x)) s w') (hid : ∀ x, (g x).id = x.id)
    (hover : (g (w.session run.session)).machine.isActive = false) : w'.sessions.IsFiled := by
  refine h.filed hfiled hw hchanges (fun x => (run.id_remember result _).trans (hid x)) fun hactive => ?_
  rw [Run.machine_remember, hover] at hactive
  cases hactive

theorem Turn.filed {es : List Happening} (h : Tenured w.sessions w.allStacks) (hfiled : w.sessions.IsFiled)
    (hturn : Turn w t w' es) : w'.sessions.IsFiled := by
  cases hturn with
  | rests hsessions hstacks =>
      rw [hsessions]
      exact hfiled
  | stops hw hphase hchanges => exact h.filed_over hfiled hw hchanges (fun _ => rfl) rfl
  | completes hw hend hactive hchanges => exact h.filed_over hfiled hw hchanges (fun _ => rfl) rfl
  | fails hw hblock hchanges => exact h.filed_over hfiled hw hchanges (fun _ => rfl) rfl
  | records hw hblock hplain hrunning hchanges => exact h.filed hfiled hw hchanges (fun _ => rfl) id
  | succeeds hw hblock hchanges => exact h.filed hfiled hw hchanges (fun _ => rfl) id
  | begins hw hblock hdirective hrunning hchanges => exact h.filed hfiled hw hchanges (fun _ => rfl) id
  | works hw hwork hchanges hhost =>
      have hsame := h.filed hfiled hw hchanges (fun _ => rfl) id
      exact hsame
  | waits hw hchanges => exact h.filed hfiled hw hchanges (fun _ => rfl) id
  | refused hw hchanges => exact h.filed hfiled hw hchanges (fun _ => rfl) id
  | enters hw hentered hsessions hstacks =>
      rw [hsessions]
      exact hentered.filed h hfiled
  | turnedAway hw hentered hsessions hstacks =>
      rw [hsessions]
      exact hentered.filed h hfiled
  | commands hw hcarried hsessions hstacks =>
      rw [hsessions]
      exact hcarried.filed hfiled h.ids

theorem serve_filed (h : Tenured w.sessions w.allStacks) (hfiled : w.sessions.IsFiled) (d : HostMove) :
    (w.serve d).sessions.IsFiled := by
  have hserved := h.served d
  generalize (w.serve d).sessions = s at hserved ⊢
  cases hserved with
  | stays => exact hfiled
  | turns hturn => exact hturn.filed h hfiled
  | requests hcarried => exact hcarried.filed hfiled h.ids
  | starts hentered => exact hentered.filed h hfiled
  | opens hopened => exact hopened.filed hfiled h.ids
  | parses hopened => exact (hopened.filed hfiled h.ids).update (hopened.lt_length h.ids) (fun _ => rfl) .inl
  | opensApart hopened => exact hopened.filed hfiled h.ids
  | startsApart hopened hfree =>
      exact (hopened.filed hfiled h.ids).update (hopened.lt_length h.ids) (fun _ => rfl) fun _ =>
        .inr ⟨_, hopened.number?⟩
  | @cancels t =>
      refine h.cancelled t hfiled fun s f _ m hs hn hphase => hs.update hn (fun _ => rfl) fun hactive => ?_
      rw [Machine.isActive, hphase] at hactive
      cases hactive

theorem following_filed (h : Tenured w.sessions w.allStacks) (hfiled : w.sessions.IsFiled) (ds : List HostMove) :
    (w.following ds).sessions.IsFiled := by
  induction ds generalizing w with
  | nil => exact hfiled
  | cons d ds ih => exact ih (h.pass (serve_handsOver h d)) (serve_filed h hfiled d)

theorem new_filed (registry : Registry) (settings : Settings) (client : Option Client) (host : Host) :
    (new registry settings client host).sessions.IsFiled where
  named id n hn := by cases hn
  closed n hactive := by
    rw [Sessions.get_of_length_le _ (Nat.zero_le n)] at hactive
    cases hactive

end Filed

/-! ### The runs of an id -/

/-- The runs of all sessions of an id, those that were closed included. -/
def runsOf (w : Workbench) (id : String) : List Frame :=
  w.allStacks.flatten.filter fun f => (w.session f.run.session).id == id

/-- The run goes on after its step. -/
def GoesOn (w : Workbench) (f : Frame) : Prop := (w.session f.run.session).machine.phase ≠ .stopped

instance (w : Workbench) (f : Frame) : Decidable (w.GoesOn f) :=
  inferInstanceAs (Decidable ((w.session f.run.session).machine.phase ≠ .stopped))

/-- The runs of an id in one state. -/
structure OneRun (w : Workbench) (id : String) : Prop where
  /-- At most one of them goes on. -/
  alone : (w.runsOf id).countP (w.GoesOn ·) ≤ 1
  /-- At most one of them is of the open session, and it keeps all others away, be it stopped or not. -/
  single : ∀ n, w.sessions.number? id = some n → loops w.allStacks n ≤ 1
  run_refused : ∀ n, w.sessions.number? id = some n → 0 < loops w.allStacks n → ∀ o : Order, o.id = id →
    ∃ r, r.isConflict = true ∧ w.enter o = (w, .error (.refused r))
  reset_refused : ∀ n, w.sessions.number? id = some n → 0 < loops w.allStacks n → ∀ clear,
    ∃ r, w.carryOut (.reset id clear) = .error (.refused r)
  /-- The others are of sessions that were closed, and leave at the next boundary. -/
  closed : ∀ f ∈ w.runsOf id, w.sessions.number? id ≠ some f.run.session →
    ¬w.GoesOn f ∧ f.run.boundary (w.session f.run.session).machine = .leave

section Runs

variable {w : Workbench} {id : String} {n : Nat}

theorem mem_runsOf {f : Frame} (h : Tenured w.sessions w.allStacks) (hf : f ∈ w.runsOf id) :
    (w.session f.run.session).id = id ∧ (w.session f.run.session).machine.phase.isTaken = true := by
  obtain ⟨hmem, hid⟩ := List.mem_filter.1 hf
  obtain ⟨frames, hframes, hmem⟩ := List.mem_flatten.1 hmem
  exact ⟨beq_iff_eq.1 hid, h.taken hframes hmem⟩

/-- A run that goes on is of the session that its id stands for. -/
theorem number?_of_goesOn {f : Frame} (h : Tenured w.sessions w.allStacks) (hfiled : w.sessions.IsFiled)
    (hf : f ∈ w.runsOf id) (hgo : w.GoesOn f) : w.sessions.number? id = some f.run.session := by
  obtain ⟨hid, htaken⟩ := mem_runsOf h hf
  have hactive : (w.session f.run.session).machine.isActive = true :=
    Machine.isActive_of_isTaken htaken fun hstop => hgo (Machine.isStopRequested_iff.1 hstop)
  obtain ⟨id', hn⟩ := hfiled.closed _ hactive
  rw [← hid, session_eq, hfiled.named id' _ hn]
  exact hn

/-- Of the runs of an id no more go on than are of the session that it stands for. -/
theorem countP_goesOn_le (h : Tenured w.sessions w.allStacks) (hfiled : w.sessions.IsFiled)
    (hn : w.sessions.number? id = some n) : (w.runsOf id).countP (w.GoesOn ·) ≤ loops w.allStacks n :=
  calc (w.runsOf id).countP (w.GoesOn ·)
      ≤ (w.runsOf id).countP (·.run.session == n) := by
        refine List.countP_mono_left fun f hf hgo => ?_
        have hf' := number?_of_goesOn h hfiled hf (of_decide_eq_true hgo)
        exact beq_iff_eq.2 (Option.some.inj (hf'.symm.trans hn))
    _ ≤ loops w.allStacks n := List.filter_sublist.countP_le

theorem oneRun (h : Tenured w.sessions w.allStacks) (hfiled : w.sessions.IsFiled) (id : String) : OneRun w id where
  alone := by
    -- A run that goes on has an active machine, so its session is the one that the id stands for.
    cases hn : w.sessions.number? id with
    | some n =>
        have hle := countP_goesOn_le h hfiled hn
        have hone := h.loops_le_one n
        omega
    | none =>
        have hnone : (w.runsOf id).countP (w.GoesOn ·) = 0 := by
          refine List.countP_eq_zero.2 fun f hf hgo => ?_
          have hf' := number?_of_goesOn h hfiled hf (of_decide_eq_true hgo)
          rw [hn] at hf'
          cases hf'
        omega
  single n _ := h.loops_le_one n
  run_refused n hn hrun o ho := by
    subst ho
    exact ⟨_, rfl, enter_of_owned hn (h.owned_of_loops hrun)⟩
  reset_refused n hn hrun clear := reset_of_owned clear hn (h.owned_of_loops hrun)
  closed f hf hn := by
    have hstopped : ¬w.GoesOn f := fun hgo => hn (number?_of_goesOn h hfiled hf hgo)
    exact ⟨hstopped, boundary_of_stopped (Decidable.not_not.1 hstopped)⟩

/-- In every state that a history leads to, of all runs of an id at most one goes on. While the session that the id
stands for has a run, the id is not given to another, but a session that was closed no longer counts. -/
theorem following_oneRun (registry : Registry) (settings : Settings) (client : Option Client) (host : Host)
    (ds : List HostMove) (id : String) : OneRun ((new registry settings client host).following ds) id :=
  oneRun (following_tenured (new_tenured registry settings client host) ds)
    (following_filed (new_tenured registry settings client host) (new_filed registry settings client host) ds) id

/-- A session is closed while its run is in its step, and the id is given to another run. -/
theorem not_oneRun_of_close :
    ¬∀ (ds : List HostMove) (id : String), ((Held.bench.following ds).runsOf id).length ≤ 1 := by
  intro h
  have htwo := h [.move (.start Held.order), .move (.turn 0), .move (.turn 0), .move (.request (.close "s")),
    .move (.start ⟨"s", "hello", .nobody⟩)] "s"
  revert htwo
  decide +kernel

end Runs

end Workbench

end Playbook
